import TaskMonitor.Supervision

/-! Tasks that have been stopped, over the daemon's runs. -/

namespace TaskMonitor

open CText Cjson

namespace Daemon

/-- The heartbeat timer is armed exactly when the task is not in `TASK_STATUS_U`. -/
def Armed (t : TaskObj) : Prop :=
  ∃ timer, t.mTimer = some timer ∧ (timer.countdown.isSome ↔ t.mStatus ≠ .U)

theorem armed_started {t t' : TaskObj} (armed : t.mTimer.isSome) (running : t'.mStatus ≠ .U)
    (timer : t'.mTimer = t.mTimer.map Timer.start) : Armed t' := by
  rcases Option.isSome_iff_exists.mp armed with ⟨before, present⟩
  refine ⟨before.start, by rw [timer, present]; rfl, ?_⟩
  exact iff_of_true rfl running

theorem armed_step {t t' : TaskObj} {calls : List SysCall} (armed : Armed t)
    (step : TaskStep t t' calls) : Armed t' := by
  rcases armed with ⟨timer, present, armed⟩
  cases step with
  | kept status same _ => exact ⟨timer, same.trans present, by rw [status]; exact armed⟩
  | started running same _ _ =>
      exact armed_started (Option.isSome_iff_exists.mpr ⟨timer, present⟩) running same
  | stopped unknown same _ =>
      refine ⟨timer.stop, by rw [same, present]; rfl, ?_⟩
      exact iff_of_false (by simp [Timer.stop]) (not_not.mpr unknown)

theorem tickTask_armed {t : TaskObj} (armed : Armed t) (dt : ℚ) (fork : Nat → Int) (i : Nat) :
    Armed (tickTask dt fork i t).1 := by
  rcases armed with ⟨timer, present, armed⟩
  rw [tickTask, present]
  dsimp only
  cases left : timer.countdown with
  | none => exact ⟨timer, present, armed⟩
  | some left' =>
      rw [left] at armed
      dsimp only
      split
      · rcases restartTask_started { t with mTimer := some (rearm timer) } (fork i) with
          ⟨running, restarted, _⟩
        exact armed_started (by simp) running restarted
      · exact ⟨_, rfl, iff_of_true rfl (armed.mp rfl)⟩

theorem tickTask_idle {t : TaskObj} (armed : Armed t) (idle : t.mStatus = .U) (dt : ℚ)
    (fork : Nat → Int) (i : Nat) : tickTask dt fork i t = (t, []) := by
  rcases armed with ⟨timer, present, armed⟩
  have disarmed : timer.countdown = none := by
    apply Option.not_isSome_iff_eq_none.mp
    intro counting
    exact armed.mp counting idle
  rw [tickTask, present]
  dsimp only
  rw [disarmed]

def Addressed (codec : Codec) (action : Int) (i : Nat) (d : Daemon) (e : DaemonEvent) : Prop :=
  ∃ (address : Nat) (req : TaskActionReq) (usrData : Option Nat) (ret : EventErrCode)
    (wire : List UInt8),
    .served address (some ⟨.processTaskAction, .taskAction, req, usrData, ret⟩) wire ∈
        (machine codec).emit d e ∧
      selectTask d.registry.taskList req.pid req.name = some i ∧ req.action = action

theorem actOn_calls {r : Registry} {i j : Nat} {method : TaskObj → TaskResult} {call : SysCall}
    (member : (i, call) ∈ (CoreWorld.actOn ⟨r, []⟩ j method).calls) :
    j = i ∧ ∃ t, call ∈ (method t).calls := by
  rw [CoreWorld.actOn] at member
  cases found : r.taskList[j]? with
  | none => simp [found] at member
  | some t =>
      simp only [found, List.nil_append, List.mem_map] at member
      rcases member with ⟨call', inside, same⟩
      cases same
      exact ⟨rfl, t, inside⟩

theorem stopTask_noFork (t : TaskObj) (pid : Int) : .fork pid ∉ t.stopTask.calls := by
  cases stopTask_step t with
  | kept _ _ quiet => exact quiet pid
  | started running _ _ _ => exact absurd t.stopTask_idle running
  | stopped _ _ quiet => exact quiet pid

theorem processTaskAction_fork {env : CbEnv} {req : TaskActionReq} {r : Registry} {i : Nat}
    {pid : Int} (member : (i, .fork pid) ∈ (processTaskAction env req ⟨r, []⟩).world.calls) :
    selectTask r.taskList req.pid req.name = some i ∧
      (req.action = taskActionStart ∨ req.action = taskActionRestart) := by
  rw [processTaskAction] at member
  cases selects : selectTask r.taskList req.pid req.name with
  | none => simp [selects] at member
  | some j =>
      simp only [selects] at member
      split at member
      · rename_i start
        exact ⟨congrArg some (actOn_calls member).1, .inl start⟩
      split at member
      · rcases actOn_calls member with ⟨_, t, inside⟩
        exact absurd inside (stopTask_noFork t pid)
      split at member
      · rename_i restart
        exact ⟨congrArg some (actOn_calls member).1, .inr restart⟩
      · cases member

theorem coreCallbacks_fork {env : CbEnv} {inv : Invocation CoreCb Nat} {r : Registry} {i : Nat}
    {pid : Int} (member : (i, .fork pid) ∈
      (coreCallbacks env inv.cb inv.type inv.req inv.usrData ⟨r, []⟩).world.calls) :
    ∃ (req : TaskActionReq) (usrData : Option Nat) (ret : EventErrCode),
      inv = ⟨.processTaskAction, .taskAction, req, usrData, ret⟩ ∧
        selectTask r.taskList req.pid req.name = some i ∧
        (req.action = taskActionStart ∨ req.action = taskActionRestart) := by
  rcases inv with ⟨cb, type, req, usrData, ret⟩
  generalize initial : (⟨r, []⟩ : CoreWorld) = w at member
  have reads (req : TaskSingleReq) := reading_callbacks env usrData req w
  have blank : TaskSingleReq := ⟨0, .zero 32 nameSize_pos⟩
  have silent : (i, .fork pid) ∉ w.calls := by
    rw [← initial]
    exact List.not_mem_nil
  simp only [coreCallbacks] at member
  split at member
  · rw [(reads blank).1] at member
    exact absurd member silent
  · rw [(reads blank).2.1] at member
    exact absurd member silent
  · rename_i single
    rw [(reads single).2.2] at member
    exact absurd member silent
  · rw [← initial] at member
    exact ⟨_, usrData, ret, rfl, processTaskAction_fork member⟩
  · exact absurd member silent

theorem fork_addressed (codec : Codec) {d : Daemon} {e : DaemonEvent}
    (noTick : ∀ dt fork, e ≠ .tick dt fork) {i : Nat} {pid : Int}
    (member : .task i (.fork pid) ∈ (machine codec).emit d e) :
    Addressed codec taskActionStart i d e ∨ Addressed codec taskActionRestart i d e := by
  rcases task_call_served noTick member with
    ⟨address, invoked, wire, env, server, w, served, reported, inside⟩
  cases invoked with
  | none =>
      have untouched : w = ⟨d.registry, []⟩ := reported
      rw [untouched] at inside
      cases inside
  | some inv =>
      rw [reported.2.2] at inside
      rcases coreCallbacks_fork inside with ⟨req, usrData, ret, rfl, selects, action⟩
      rcases action with start | restart
      · exact .inl ⟨address, req, usrData, ret, wire, served, selects, start⟩
      · exact .inr ⟨address, req, usrData, ret, wire, served, selects, restart⟩

def Starts (codec : Codec) (i : Nat) (d : Daemon) (e : DaemonEvent) : Prop :=
  Addressed codec taskActionStart i d e ∨ Addressed codec taskActionRestart i d e

/-- After one event the timer of a task is right again, and a task that was stopped and that
the event does not start is still stopped. -/
theorem next_task (codec : Codec) {d : Daemon} {i : Nat} {t : TaskObj}
    (found : d.registry.taskList[i]? = some t) (armed : Armed t) (e : DaemonEvent) :
    ∃ t', ((machine codec).next d e).registry.taskList[i]? = some t' ∧ Armed t' ∧
      (t.mStatus = .U → ¬ Starts codec i d e →
        t'.mStatus = .U ∧ ∀ pid, .task i (.fork pid) ∉ (machine codec).emit d e) := by
  cases alive : d.alive with
  | false =>
      rcases step_dead codec alive e with ⟨same, silent⟩
      rw [same, silent]
      exact ⟨t, found, armed, fun idle _ => ⟨idle, fun _ => List.not_mem_nil⟩⟩
  | true =>
      by_cases ticks : ∃ dt fork, e = .tick dt fork
      · rcases ticks with ⟨dt, fork, rfl⟩
        have stepped : (machine codec).step d (.tick dt fork) = d.tick dt fork := by
          rw [step_alive codec alive]
        rcases tick_task dt fork found with ⟨found', own⟩
        rw [StepMachine.next, StepMachine.emit, stepped]
        refine ⟨_, found', tickTask_armed armed dt fork i, ?_⟩
        intro idle _
        have alone := tickTask_idle armed idle dt fork i
        constructor
        · rw [alone]
          exact idle
        · intro pid member
          have inside := (own _ (.inr ⟨_, rfl⟩)).mp member
          rw [alone] at inside
          cases inside
      · have noTick : ∀ dt fork, e ≠ .tick dt fork := fun dt fork same => ticks ⟨dt, fork, same⟩
        rcases event_step codec alive noTick found with ⟨t', found', step, _⟩
        refine ⟨t', found', armed_step armed step, ?_⟩
        intro idle unasked
        have noFork : ∀ pid, .task i (.fork pid) ∉ (machine codec).emit d e := fun pid member =>
          unasked (fork_addressed codec noTick member)
        refine ⟨?_, noFork⟩
        cases step with
        | kept status _ _ => exact status.trans idle
        | started _ _ pid forked => exact absurd (mem_callsOf forked) (noFork pid)
        | stopped unknown _ _ => exact unknown

theorem addressed_stop (codec : Codec) {d : Daemon} {i : Nat} {e : DaemonEvent}
    (addressed : Addressed codec taskActionStop i d e) :
    ∃ t', ((machine codec).next d e).registry.taskList[i]? = some t' ∧ t'.mStatus = .U ∧
      ∀ pid, .task i (.fork pid) ∉ (machine codec).emit d e := by
  rcases addressed with ⟨address, req, usrData, ret, wire, served, selects, action⟩
  rcases served_readable served with ⟨env, c, server, w, _, _, _, reported, registry, calls⟩
  rcases selectTask_found selects with ⟨t, found⟩
  rcases List.getElem?_eq_some_iff.mp found with ⟨bound, _⟩
  have stopping : (processTaskAction env.callback req ⟨d.registry, []⟩).world =
      CoreWorld.actOn ⟨d.registry, []⟩ i (·.stopTask) := by
    simp [processTaskAction, selects, action, taskActionStart, taskActionStop]
  have world : w = CoreWorld.actOn ⟨d.registry, []⟩ i (·.stopTask) := reported.2.2.trans stopping
  refine ⟨t.stopTask.task, ?_, t.stopTask_idle, ?_⟩
  · rw [registry, world, CoreWorld.actOn]
    simp only [found]
    exact List.getElem?_set_self bound
  · intro pid member
    have inside := calls i _ member
    rw [world] at inside
    rcases actOn_calls inside with ⟨_, t', stops⟩
    exact stopTask_noFork t' pid stops

theorem armed_run (codec : Codec) {d : Daemon} {i : Nat} {t : TaskObj}
    (found : d.registry.taskList[i]? = some t) (armed : Armed t) (es : List DaemonEvent) :
    ∃ t', ((machine codec).run d es).registry.taskList[i]? = some t' ∧ Armed t' := by
  induction es generalizing d t with
  | nil => exact ⟨t, found, armed⟩
  | cons e es ih =>
      rcases next_task codec found armed e with ⟨t', found', armed', _⟩
      exact ih found' armed'

theorem idle_run (codec : Codec) {d : Daemon} {i : Nat} {t : TaskObj}
    (found : d.registry.taskList[i]? = some t) (armed : Armed t) (idle : t.mStatus = .U)
    {es : List DaemonEvent}
    (unasked : (machine codec).AllSteps (fun d e => ¬ Starts codec i d e) d es) :
    (∃ t', ((machine codec).run d es).registry.taskList[i]? = some t' ∧ t'.mStatus = .U) ∧
      ∀ pid, .task i (.fork pid) ∉ (machine codec).trace d es := by
  induction es generalizing d t with
  | nil => exact ⟨⟨t, found, idle⟩, fun _ => List.not_mem_nil⟩
  | cons e es ih =>
      rcases next_task codec found armed e with ⟨t', found', armed', stays⟩
      rcases stays idle unasked.1 with ⟨idle', silent⟩
      rcases ih found' armed' idle' unasked.2 with ⟨last, later⟩
      constructor
      · exact last
      · intro pid member
        rcases List.mem_append.mp member with now | after
        · exact silent pid now
        · exact later pid after

end Daemon

open Daemon

/-- From tasks in `TASK_STATUS_U` with disarmed timers: a task's timer is armed exactly when it
is running, and once an action has stopped a task it stays stopped, and nothing forks for it,
until an action starts or restarts it. -/
theorem stopped_stays_stopped (codec : Codec) {d : Daemon}
    (unknown : ∀ t ∈ d.registry.taskList, t.mStatus = .U ∧
      ∃ timer, t.mTimer = some timer ∧ timer.countdown = none) (es : List DaemonEvent) :
    (∀ i < d.registry.taskList.length, ∃ t,
      ((Daemon.machine codec).run d es).registry.taskList[i]? = some t ∧ Armed t) ∧
    ∀ i e back, Addressed codec taskActionStop i ((Daemon.machine codec).run d es) e →
      (Daemon.machine codec).AllSteps (fun d e => ¬ Starts codec i d e)
        ((Daemon.machine codec).run d (es ++ [e])) back →
      (∃ t, ((Daemon.machine codec).run d (es ++ e :: back)).registry.taskList[i]? = some t ∧
        t.mStatus = .U) ∧
      ∀ pid, .task i (.fork pid) ∉
        (Daemon.machine codec).trace ((Daemon.machine codec).run d es) (e :: back) := by
  have tracked : ∀ i < d.registry.taskList.length, ∃ t,
      ((Daemon.machine codec).run d es).registry.taskList[i]? = some t ∧ Armed t := by
    intro i bound
    rcases unknown d.registry.taskList[i] (List.getElem_mem bound) with ⟨idle, timer, present, off⟩
    apply armed_run codec (List.getElem?_eq_getElem bound)
    exact ⟨timer, present, by simp [off, idle]⟩
  constructor
  · exact tracked
  · intro i e back stop unasked
    rcases addressed_stop codec stop with ⟨t', found', idle, silent⟩
    have bound : i < d.registry.taskList.length := by
      rcases List.getElem?_eq_some_iff.mp found' with ⟨bound, _⟩
      rwa [(size_next codec _ _).length, (size_run codec d _).length] at bound
    rcases tracked i bound with ⟨t, found, armed⟩
    rcases next_task codec found armed e with ⟨t'', found'', armed', _⟩
    rw [found'] at found''
    obtain rfl := Option.some.inj found''
    rw [StepMachine.run_append] at unasked ⊢
    rcases idle_run codec found' armed' idle unasked with ⟨last, later⟩
    constructor
    · exact last
    · intro pid member
      rcases List.mem_append.mp member with now | after
      · exact silent pid now
      · exact later pid after

def stoppedDaemon : Daemon := ⟨⟨[{ idleTask with mPid := 40 }], 1⟩, [], [], 0, true⟩

def actionRead (pid action : Int) : DaemonEvent :=
  let payload := (textCodec.print (.object [(text "type", .number 3), (text "data",
    .object [(text "pid", .number pid), (text "hearbeat", .number action)])])).bytes
  .readable 0 ⟨[.bytes (htonl 1 ++ htonl (UInt32.ofNat payload.length) ++ payload)], true, true,
    fun _ => true, [.count 4, .count 4, .count 100], ⟨true, 41, fun _ => ⟨0, 0⟩⟩⟩

def startRun : List DaemonEvent :=
  [.connect 99 0 ⟨⟨0, 0, none, none, 0⟩, 0, some fun _ => none⟩,
    actionRead 40 taskActionStart, .tick 2 fun _ => 42]

def actionOut (tasks : List TaskObj) (action : Int) : DaemonOut → Bool
  | .served _ (some ⟨.processTaskAction, .taskAction, req, _, _⟩) _ =>
      selectTask tasks req.pid req.name = some 0 && req.action = action
  | _ => false

theorem actionOut_addressed {codec : Codec} {d : Daemon} {e : DaemonEvent} {action : Int}
    (served : ((Daemon.machine codec).emit d e).any (actionOut d.registry.taskList action) =
      true) : Addressed codec action 0 d e := by
  rcases List.any_eq_true.mp served with ⟨o, member, about⟩
  rw [actionOut.eq_def] at about
  split at about
  · rcases Bool.and_eq_true_iff.mp about with ⟨selects, named⟩
    exact ⟨_, _, _, _, _, member, of_decide_eq_true selects, of_decide_eq_true named⟩
  · cases about

theorem stopped_stays_stopped_run :
    (∃ t, ((Daemon.machine textCodec).run stoppedDaemon
        (startRun ++ [actionRead 41 taskActionStop, .tick 9 fun _ => 43])).registry.taskList[0]? =
          some t ∧ t.mStatus = .U) ∧
      ∀ pid, .task 0 (.fork pid) ∉ (Daemon.machine textCodec).trace
        ((Daemon.machine textCodec).run stoppedDaemon startRun)
          [actionRead 41 taskActionStop, .tick 9 fun _ => 43] := by
  have unknown : ∀ t ∈ stoppedDaemon.registry.taskList, t.mStatus = .U ∧
      ∃ timer, t.mTimer = some timer ∧ timer.countdown = none := by
    intro t member
    obtain rfl := List.mem_singleton.mp member
    exact ⟨rfl, _, rfl, rfl⟩
  apply (stopped_stays_stopped textCodec unknown startRun).2
  · exact actionOut_addressed (by decide +kernel)
  · refine ⟨?_, trivial⟩
    rintro (⟨_, _, _, _, _, served, _⟩ | ⟨_, _, _, _, _, served, _⟩)
    all_goals
      rcases served_readable served with ⟨_, _, _, _, same, _⟩
      cases same

end TaskMonitor
