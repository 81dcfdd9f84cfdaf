import TaskMonitor.Noninterference
import TaskMonitor.Library.Countdown

/-! How often the daemon restarts a task that nobody commands. -/

namespace TaskMonitor

open CText Cjson StepMachine

def SysCall.isFork : SysCall → Bool
  | .fork _ => true
  | _ => false

def forkCount (i : Nat) (calls : List (Nat × SysCall)) : Nat :=
  calls.countP fun call => call.1 = i && call.2.isFork

namespace Daemon

/-- A running task whose timer has `left` left, and is started with `delay`. -/
def Counting (delay left : ℚ) (t : TaskObj) : Prop :=
  t.mStatus ≠ .U ∧ ∃ timer, t.mTimer = some timer ∧ timer.delay = delay ∧
    timer.countdown = some left

theorem forkCount_append (i : Nat) (front back : List (Nat × SysCall)) :
    forkCount i (front ++ back) = forkCount i front + forkCount i back := List.countP_append

theorem forkCount_map (i : Nat) (calls : List SysCall) :
    forkCount i (calls.map (Prod.mk i)) = calls.countP SysCall.isFork := by
  rw [forkCount, List.countP_map]
  congr 1
  funext call
  simp

theorem restartTask_counting {delay : ℚ} {t : TaskObj} (running : t.mStatus ≠ .U) {timer : Timer}
    (armed : t.mTimer = some timer) (initial : timer.delay = delay) (pid : Int) :
    Counting delay delay (t.restartTask pid).task ∧
      (t.restartTask pid).calls.countP SysCall.isFork = 1 := by
  rcases restartTask_started t pid with ⟨again, started, _⟩
  constructor
  · refine ⟨again, timer.start, ?_, initial, ?_⟩
    · rw [started, armed]
      rfl
    · exact congrArg some initial
  · have stopped := TaskObj.stopTask_calls running
    have closed : t.closeReadIo.2.countP SysCall.isFork = 0 := by
      apply List.countP_eq_zero.mpr
      intro call member
      have inert := t.closeReadIo_inert call member
      cases call <;> first | exact inert.elim | exact Bool.false_ne_true
    have starts := TaskObj.startTask_of_idle t.stopTask_idle pid
    simp only [TaskObj.restartTask, starts, stopped, List.countP_append, List.countP_cons]
    simp [SysCall.isFork, closed]

theorem tickTask_counting {delay left : ℚ} {t : TaskObj} (counting : Counting delay left t) (dt : ℚ)
    (fork : Nat → Int) (i : Nat) :
    Counting delay ((countdown delay).next left dt) (tickTask dt fork i t).1 ∧
      forkCount i ((tickTask dt fork i t).2.filterMap taskCall?) =
        ((countdown delay).emit left dt).length := by
  rcases counting with ⟨running, timer, armed, initial, remaining⟩
  rw [tickTask, armed]
  dsimp only
  rw [remaining]
  dsimp only
  by_cases due : left ≤ dt
  · rcases Countdown.step_due delay due with ⟨again, expired⟩
    let t' : TaskObj := { t with mTimer := some (rearm timer) }
    have running' : t'.mStatus ≠ .U := running
    rcases restartTask_counting running' rfl initial (fork i) with ⟨counting, once⟩
    rw [if_pos due, again, expired]
    refine ⟨counting, ?_⟩
    calc
      _ = forkCount i ((t'.restartTask (fork i)).calls.map (Prod.mk i)) := by
        rw [List.filterMap_cons_none rfl, taskCall_map]
        rfl
      _ = (t'.restartTask (fork i)).calls.countP SysCall.isFork := forkCount_map i _
      _ = 1 := once
  · rcases Countdown.step_early delay due with ⟨less, silent⟩
    rw [if_neg due, less, silent]
    exact ⟨⟨running, _, rfl, initial, rfl⟩, rfl⟩

theorem forkCount_others {i : Nat} {outs : List DaemonOut}
    (about : ∀ o ∈ outs, ∃ j, j ≠ i ∧ OfTask j o) : forkCount i (outs.filterMap taskCall?) = 0 := by
  apply List.countP_eq_zero.mpr
  intro call member
  rcases List.mem_filterMap.mp member with ⟨o, inside, made⟩
  rcases about o inside with ⟨j, other, rfl | ⟨inner, rfl⟩⟩
  · cases made
  · obtain rfl := Option.some.inj made
    simp [other]

theorem tick_forkCount {d : Daemon} {i : Nat} {t : TaskObj}
    (found : d.registry.taskList[i]? = some t) (dt : ℚ) (fork : Nat → Int) :
    forkCount i ((d.tick dt fork).2.filterMap taskCall?) =
      forkCount i ((tickTask dt fork i t).2.filterMap taskCall?) := by
  rcases List.getElem?_eq_some_iff.mp found with ⟨bound, here⟩
  have split : d.registry.taskList =
      d.registry.taskList.take i ++ t :: d.registry.taskList.drop (i + 1) := by
    rw [← here, ← List.drop_eq_getElem_cons bound, List.take_append_drop]
  have length : (d.registry.taskList.take i).length = i := by
    rw [List.length_take]
    omega
  have away (tasks : List TaskObj) (place : Nat → Nat) (other : ∀ j < tasks.length, place j ≠ i) :
      forkCount i (((tasks.mapIdx fun j t => tickTask dt fork (place j) t).map
        Prod.snd).flatten.filterMap taskCall?) = 0 := by
    apply forkCount_others
    intro o member
    rcases List.mem_flatten.mp member with ⟨outs, from_task, inside⟩
    rcases List.mem_map.mp from_task with ⟨_, ticked, rfl⟩
    rcases List.mem_mapIdx.mp ticked with ⟨j, bound, rfl⟩
    exact ⟨place j, other j bound, tickTask_own o inside⟩
  have before := away (d.registry.taskList.take i) (fun j => j) (by omega)
  have behind := away (d.registry.taskList.drop (i + 1)) (fun j => j + 1 + i) (by omega)
  change forkCount i (((d.registry.taskList.mapIdx (tickTask dt fork)).map
    Prod.snd).flatten.filterMap taskCall?) = _
  rw [split, List.mapIdx_append, List.mapIdx_cons, length, List.map_append, List.map_cons,
    List.flatten_append, List.flatten_cons, List.filterMap_append, List.filterMap_append,
    forkCount_append, forkCount_append, before, behind, Nat.zero_add, Nat.add_zero, Nat.zero_add]

/-- While only time passes, a task is restarted whenever its countdown has run down. -/
theorem ticks_forkCount (codec : Codec) {d : Daemon} (alive : d.alive = true) {i : Nat}
    {t : TaskObj} (found : d.registry.taskList[i]? = some t) {delay left : ℚ}
    (counting : Counting delay left t) {es : List DaemonEvent} (ticks : ∀ e ∈ es, isTick e = true) :
    forkCount i (taskCalls codec d es) =
      ((countdown delay).trace left (es.map duration)).length := by
  induction es generalizing d t left with
  | nil => rfl
  | cons e es ih =>
      have later : ∀ e ∈ es, isTick e = true :=
        fun e member => ticks e (List.mem_cons_of_mem _ member)
      have tick := ticks e List.mem_cons_self
      cases e with
      | tick dt fork =>
          have step := step_alive codec alive (.tick dt fork)
          rcases tickTask_counting counting dt fork i with ⟨counting', now⟩
          have found' := (tick_task dt fork found).1
          have rest := ih (d := (d.tick dt fork).1) alive found' counting' later
          have split : taskCalls codec d (.tick dt fork :: es) =
              (d.tick dt fork).2.filterMap taskCall? ++ taskCalls codec (d.tick dt fork).1 es := by
            rw [taskCalls, trace_cons, List.filterMap_append, emit, next, step]
            rfl
          rw [split, forkCount_append, tick_forkCount found, now, rest, List.map_cons, trace_cons,
            List.length_append]
          rfl
      | _ => cases tick

theorem duration_ticks (es : List DaemonEvent) :
    ((es.filter isTick).map duration).sum = (es.map duration).sum := by
  induction es with
  | nil => rfl
  | cons e es ih =>
      cases e with
      | tick dt fork => exact congrArg (dt + ·) ih
      | _ => exact ih.trans (zero_add _).symm

end Daemon

open Daemon

/-- A running task is killed and forked again at a steady pace, as long as nobody asks for an
action: heartbeats or not, `k` times in a time that is at least `k` and less than about `k + 1`
first delays of its timer. -/
theorem restarts_paced (codec : Codec) {d : Daemon} (unconnected : d.clients = []) {i : Nat}
    {t : TaskObj} {timer : Timer} {pid : Int} (idle : t.mStatus = .U)
    (created : t.mTimer = some timer) (nonneg : 0 ≤ timer.delay)
    (started : d.registry.taskList[i]? = some (t.startTask pid).task) {es : List DaemonEvent}
    (survives : ((Daemon.machine codec).run d es).alive = true)
    (harmless : ∀ a, HarmlessStream codec (bytesRead codec d es a)) {slack : ℚ}
    (fine : ∀ dt fork, .tick dt fork ∈ es → 0 ≤ dt ∧ dt ≤ slack) :
    let k := forkCount i (taskCalls codec d es)
    let total := (es.map duration).sum
    k * timer.delay ≤ total ∧ total ≤ (k + 1) * timer.delay + k * slack := by
  intro k total
  have running : TaskStatus.R ≠ .U := by decide
  have counting : Counting timer.delay timer.delay (t.startTask pid).task := by
    rw [TaskObj.startTask_of_idle idle, created]
    exact ⟨running, timer.start, rfl, rfl, rfl⟩
  have only : ∀ e ∈ es.filter isTick, isTick e = true :=
    fun e member => (List.mem_filter.mp member).2
  have counted := ticks_forkCount codec (alive_of_run survives) started counting only
  rw [← (tasks_undisturbed unconnected survives harmless).2] at counted
  have total_ticks : total = ((es.filter isTick).map duration).sum := (duration_ticks es).symm
  have steps : ∀ dt ∈ (es.filter isTick).map duration, 0 ≤ dt ∧ dt ≤ slack := by
    intro dt member
    rcases List.mem_map.mp member with ⟨e, inside, rfl⟩
    rcases List.mem_filter.mp inside with ⟨inside, tick⟩
    cases e with
    | tick dt fork => exact fine dt fork inside
    | _ => cases tick
  have forward := fun dt member => (steps dt member).1
  have early := Countdown.never_early timer.delay timer.delay
    ((es.filter isTick).map duration)
  have missed := Countdown.never_missed nonneg forward (fun dt member => (steps dt member).2) nonneg
  rcases Countdown.left_bounds nonneg forward nonneg (le_refl _) with ⟨low, high⟩
  rw [← total_ticks, ← counted] at early missed
  constructor
  · linarith
  · linarith

/-- Asked for a heartbeat in time, and restarted once in 4 seconds all the same. -/
theorem restarts_paced_heartbeat :
    forkCount 0 (taskCalls textCodec startedDaemon heartbeatRun) = 1 ∧
      (heartbeatRun.map duration).sum = 4 ∧
      (heartbeatRun.map duration).sum ≤
        (forkCount 0 (taskCalls textCodec startedDaemon heartbeatRun) + 1) * 3 +
          forkCount 0 (taskCalls textCodec startedDaemon heartbeatRun) * 2 := by
  have short : ∀ dt fork, .tick dt fork ∈ heartbeatRun → 0 ≤ dt ∧ dt ≤ (2 : ℚ) := by
    intro dt fork member
    have two : dt = 2 := by
      simp [heartbeatRun, connected, heartbeatRead] at member
      exact member.1
    rw [two]
    norm_num
  have created : idleTask.mTimer = some (.create 3 5) := rfl
  have started : startedDaemon.registry.taskList[0]? = some (idleTask.startTask 40).task := rfl
  have paced := restarts_paced textCodec rfl rfl created (by decide +kernel) started
    (by decide +kernel) heartbeatRun_harmless short
  exact ⟨by decide +kernel, by decide +kernel, paced.2⟩

end TaskMonitor
