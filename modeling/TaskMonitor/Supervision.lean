import TaskMonitor.DaemonSteps
import TaskMonitor.ServerReply
import TaskMonitor.Library.CjsonText
import Mathlib.Tactic.Linarith
import Mathlib.Tactic.Ring

/-! The heartbeat timer of a task over the daemon's runs. -/

namespace TaskMonitor

open CText Cjson

namespace Daemon

def forked (calls : List SysCall) : Bool :=
  calls.any fun
    | .fork _ => true
    | _ => false

/-- A running task's timer has `delay` left, less the time since it was started. Another
task's timer is not armed. -/
def Tracks (delay elapsed : ℚ) (t : TaskObj) : Prop :=
  ∃ timer, t.mTimer = some timer ∧ timer.delay = delay ∧
    timer.countdown = if t.mStatus = .U then none else some (delay - elapsed)

theorem tracks_step {delay elapsed : ℚ} {t t' : TaskObj} {calls : List SysCall}
    (tracks : Tracks delay elapsed t) (step : TaskStep t t' calls) :
    Tracks delay (if forked calls then 0 else elapsed) t' := by
  rcases tracks with ⟨timer, armed, initial, left⟩
  have unforked (quiet : ∀ pid, .fork pid ∉ calls) : forked calls = false := by
    rw [forked, List.any_eq_false]
    intro call member
    cases call <;> simp_all
  cases step with
  | kept status same quiet =>
      rw [unforked quiet]
      exact ⟨timer, same.trans armed, initial, by rw [status]; exact left⟩
  | started running same pid member =>
      have forks : forked calls = true := List.any_eq_true.mpr ⟨_, member, rfl⟩
      rw [forks, if_pos rfl]
      refine ⟨timer.start, by rw [same, armed]; rfl, initial, ?_⟩
      rw [if_neg running, sub_zero, ← initial]
      rfl
  | stopped unknown same quiet =>
      rw [unforked quiet]
      exact ⟨timer.stop, by rw [same, armed]; rfl, initial, by rw [if_pos unknown]; rfl⟩

theorem tickTask_tracks {delay elapsed dt : ℚ} {t : TaskObj} (tracks : Tracks delay elapsed t)
    (fork : Nat → Int) (i : Nat) :
    ((tickTask dt fork i t).2 = [] ∧ (t.mStatus ≠ .U → elapsed + dt < delay) ∧
        Tracks delay (elapsed + dt) (tickTask dt fork i t).1) ∨
      (.timedOut i ∈ (tickTask dt fork i t).2 ∧ t.mStatus ≠ .U ∧ ¬ elapsed + dt < delay) := by
  rcases tracks with ⟨timer, armed, initial, left⟩
  rw [tickTask]
  rw [armed]
  dsimp only
  by_cases unknown : t.mStatus = .U
  · rw [if_pos unknown] at left
    rw [left]
    exact .inl ⟨rfl, fun running => absurd unknown running, timer, armed, initial,
      by rw [if_pos unknown]; exact left⟩
  · rw [if_neg unknown] at left
    rw [left]
    dsimp only
    by_cases due : delay - elapsed ≤ dt
    · rw [if_pos due]
      exact .inr ⟨List.mem_cons_self, unknown, by linarith⟩
    · rw [if_neg due]
      refine .inl ⟨rfl, fun _ => by linarith, _, rfl, initial, ?_⟩
      rw [if_neg unknown]
      ring_nf

def duration : DaemonEvent → ℚ
  | .tick dt _ => dt
  | _ => 0

def Watched (d : Daemon) (i : Nat) : Prop :=
  d.alive = true ∧ ∃ t, d.registry.taskList[i]? = some t ∧ t.mStatus ≠ .U

/-- While task `i` is running no time passes that brings it to `delay` since its last `fork`.
`elapsed` is the time since then. -/
def WithinDelay (codec : Codec) (i : Nat) (delay : ℚ) : Daemon → ℚ → List DaemonEvent → Prop
  | _, _, [] => True
  | d, elapsed, e :: es =>
      (∀ dt fork, e = .tick dt fork → Watched d i → elapsed + dt < delay) ∧
        WithinDelay codec i delay ((machine codec).next d e)
          (if forked (callsOf i ((machine codec).emit d e)) then 0 else elapsed + duration e) es

theorem dead_run (codec : Codec) {d : Daemon} (dead : d.alive = false) (i : Nat) (delay : ℚ)
    (es : List DaemonEvent) :
    (machine codec).trace d es = [] ∧ ∀ elapsed, WithinDelay codec i delay d elapsed es := by
  induction es with
  | nil => exact ⟨rfl, fun _ => trivial⟩
  | cons e es ih =>
      rcases step_dead codec dead e with ⟨same, silent⟩
      constructor
      · rw [StepMachine.trace_cons, same, silent, ih.1]
        rfl
      · intro elapsed
        constructor
        · intro dt fork _ watched
          have alive := watched.1
          rw [dead] at alive
          cases alive
        · rw [same]
          exact ih.2 _

theorem watched_iff {d : Daemon} {i : Nat} {t : TaskObj} (alive : d.alive = true)
    (found : d.registry.taskList[i]? = some t) : Watched d i ↔ t.mStatus ≠ .U := by
  constructor
  · intro watched
    rcases watched with ⟨_, t', present, running⟩
    rw [found] at present
    cases present
    exact running
  · intro running
    exact ⟨alive, t, found, running⟩

/-- Time that passes leaves a task's timer in step, or brings a running task to its timeout. -/
theorem tick_step (codec : Codec) {d : Daemon} {i : Nat} {t : TaskObj} {delay elapsed : ℚ}
    (alive : d.alive = true) (found : d.registry.taskList[i]? = some t)
    (tracks : Tracks delay elapsed t) {e : DaemonEvent} {dt : ℚ} {fork : Nat → Int}
    (ticks : e = .tick dt fork) :
    (∃ t', ((machine codec).next d e).registry.taskList[i]? = some t' ∧
        Tracks delay (elapsed + dt) t' ∧ callsOf i ((machine codec).emit d e) = [] ∧
        .timedOut i ∉ (machine codec).emit d e ∧ (Watched d i → elapsed + dt < delay)) ∨
      (.timedOut i ∈ (machine codec).emit d e ∧ Watched d i ∧ ¬ elapsed + dt < delay) := by
  subst ticks
  have stepped : (machine codec).step d (.tick dt fork) = d.tick dt fork := by
    simp [machine, step, alive]
  rcases tick_task dt fork found with ⟨found', own⟩
  rw [StepMachine.emit, StepMachine.next, stepped, watched_iff alive found, own _ (.inl rfl)]
  rcases tickTask_tracks tracks fork i with ⟨silent, inTime, tracks'⟩ | ⟨fired, running, late⟩
  · have quiet : callsOf i (d.tick dt fork).2 = [] := by
      apply List.eq_nil_iff_forall_not_mem.mpr
      intro call member
      have inside := (own _ (.inr ⟨call, rfl⟩)).mp (mem_callsOf member)
      rw [silent] at inside
      cases inside
    have noTimeout : .timedOut i ∉ (tickTask dt fork i t).2 := by
      rw [silent]
      exact List.not_mem_nil
    exact .inl ⟨_, found', tracks', quiet, noTimeout, inTime⟩
  · exact .inr ⟨fired, running, late⟩

theorem timedOut_iff (codec : Codec) {d : Daemon} {i : Nat} {t : TaskObj} {delay elapsed : ℚ}
    (found : d.registry.taskList[i]? = some t) (tracks : Tracks delay elapsed t)
    (es : List DaemonEvent) :
    .timedOut i ∉ (machine codec).trace d es ↔ WithinDelay codec i delay d elapsed es := by
  induction es generalizing d t elapsed with
  | nil => simp [WithinDelay]
  | cons e es ih =>
      cases alive : d.alive with
      | false =>
          rcases dead_run codec alive i delay (e :: es) with ⟨silent, within⟩
          rw [silent]
          exact iff_of_true List.not_mem_nil (within elapsed)
      | true =>
          rw [StepMachine.trace_cons, List.mem_append, not_or, WithinDelay]
          by_cases ticks : ∃ dt fork, e = .tick dt fork
          · rcases ticks with ⟨dt, fork, same⟩
            have passed : duration e = dt := by rw [same]; rfl
            rcases tick_step codec alive found tracks same with
              ⟨t', found', tracks', quiet, noTimeout, inTime⟩ | ⟨fired, watched, late⟩
            · rw [quiet, ih found' tracks', passed]
              apply and_congr_left'
              apply iff_of_true noTimeout
              intro dt' fork' same' watched
              rw [same] at same'
              cases same'
              exact inTime watched
            · exact iff_of_false (fun kept => kept.1 fired)
                (fun within => late (within.1 dt fork same watched))
          · have noTick : ∀ dt fork, e ≠ .tick dt fork := fun dt fork same =>
              ticks ⟨dt, fork, same⟩
            rcases event_step codec alive noTick found with ⟨t', found', step, noTimeout⟩
            have still : duration e = 0 := by
              cases e with
              | tick dt fork => exact absurd rfl (noTick dt fork)
              | connect pid fd env => rfl
              | readable address env => rfl
              | clearClients => rfl
            rw [ih found' (tracks_step tracks step), still, add_zero]
            exact ⟨fun within => ⟨fun dt fork same => absurd same (noTick dt fork), within.2⟩,
              fun within => ⟨noTimeout, within.2⟩⟩

def replyRet (codec : Codec) (wire : List UInt8) : Option ℚ := do
  let root ← codec.parse (wire.drop dataHeadLen.toNat)
  numberItem root (text "ret")

def heartbeatServed (codec : Codec) (d : Daemon) (i : Nat) (outs : List DaemonOut) : Bool :=
  match d.registry.taskList[i]?.bind TaskObj.mClient with
  | none => false
  | some own => outs.any fun
      | .served address (some inv) wire =>
          address = own && inv.type = .heartbeat && inv.ret = .succ && replyRet codec wire = some 0
      | _ => false

/-- Heartbeats come in time: one before `deadline`, counted from the start of the task, and
then each less than the task's heartbeat interval after the one before. -/
def timely (codec : Codec) (i : Nat) : Daemon → ℚ → ℚ → List DaemonEvent → Bool
  | _, _, _, [] => true
  | d, passed, deadline, e :: es =>
      let interval := (d.registry.taskList[i]?.map TaskObj.getTaskHeartbeat).getD 0
      let now := passed + duration e
      now < deadline &&
        if heartbeatServed codec d i ((machine codec).emit d e) then
          timely codec i ((machine codec).next d e) 0 interval es
        else timely codec i ((machine codec).next d e) now deadline es

end Daemon

open Daemon

/-- A task that `startTask` has started is timed out in a run exactly when its process gets
`delay` old in it, the first delay of its timer. Heartbeats make no difference. -/
theorem times_out_by_age (codec : Codec) {d : Daemon} {i : Nat} {t : TaskObj} {timer : Timer}
    {pid : Int} (idle : t.mStatus = .U) (created : t.mTimer = some timer)
    (started : d.registry.taskList[i]? = some (t.startTask pid).task) (es : List DaemonEvent) :
    .timedOut i ∉ (Daemon.machine codec).trace d es ↔ WithinDelay codec i timer.delay d 0 es := by
  refine timedOut_iff codec started ?_ es
  rw [TaskObj.startTask_of_idle idle, created]
  exact ⟨timer.start, rfl, rfl, by simp [Timer.start]⟩

def idleTask : TaskObj :=
  ⟨text "cat", text "/bin/cat", [], 5, 0, some (.create 3 5), .U, none, none, 0⟩

def startedDaemon : Daemon := ⟨⟨[(idleTask.startTask 40).task], 1⟩, [], [], 0, true⟩

def connected : DaemonEvent := .connect 40 0 ⟨⟨0, 0, none, none, 0⟩, 0, some fun _ => none⟩

def heartbeatFrame : List UInt8 :=
  let payload := (textCodec.print acceptedRequest).bytes
  htonl 1 ++ htonl (UInt32.ofNat payload.length) ++ payload

def heartbeatRead : DaemonEvent :=
  .readable 0 ⟨[.bytes heartbeatFrame], true, true, fun _ => true,
    [.count 4, .count 4, .count 100], ⟨true, 41, fun _ => ⟨40, 5⟩⟩⟩

def heartbeatRun : List DaemonEvent :=
  [connected, .tick 2 fun _ => 41, heartbeatRead, .tick 2 fun _ => 41]

theorem times_out_by_age_run :
    .timedOut 0 ∉ (Daemon.machine textCodec).trace startedDaemon heartbeatRun ↔
      WithinDelay textCodec 0 3 startedDaemon 0 heartbeatRun := by
  have created : idleTask.mTimer = some (.create 3 5) := rfl
  have started : startedDaemon.registry.taskList[0]? = some (idleTask.startTask 40).task := rfl
  exact times_out_by_age textCodec rfl created started heartbeatRun

/-- A heartbeat after 2 of 3 seconds, answered with `ret` 0: 2 seconds later, well before the
next one is due, the task is killed and restarted. -/
theorem timely_task_times_out :
    ¬ ∀ es, timely textCodec 0 startedDaemon 0 3 es = true →
      .timedOut 0 ∉ (Daemon.machine textCodec).trace startedDaemon es := by
  intro claimed
  have kept := claimed heartbeatRun (by decide +kernel)
  have fired : ((Daemon.machine textCodec).trace startedDaemon heartbeatRun).any (fun
      | .timedOut i => i = 0
      | _ => false) = true := by decide +kernel
  rcases List.any_eq_true.mp fired with ⟨o, member, timeout⟩
  cases o with
  | timedOut i =>
      obtain rfl := of_decide_eq_true timeout
      exact kept member
  | _ => cases timeout

end TaskMonitor
