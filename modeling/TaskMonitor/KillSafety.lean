import TaskMonitor.TaskObj
import TaskMonitor.Library.StepMachine
import Mathlib.Logic.Function.Basic
import Mathlib.Data.List.Nodup

/-! Which processes the daemon signals and waits for, over runs of any number of tasks. -/

namespace TaskMonitor

open CText

inductive TaskOp where
  | start (pid : Int)
  | stop
  | restart (pid : Int)
  | timeout (pid : Int)
  | clear
  deriving DecidableEq, Repr

namespace TaskOp

def apply (t : TaskObj) : TaskOp → TaskResult
  | start pid => t.startTask pid
  | stop => t.stopTask
  | restart pid => t.restartTask pid
  | timeout pid => taskTimeoutCb t pid
  | clear => t.clearTask

def stops : TaskOp → Bool
  | start _ => false
  | _ => true

def forks : TaskOp → Option Int
  | start pid | restart pid | timeout pid => some pid
  | stop | clear => none

end TaskOp

variable {ι : Type*}

def tasks [DecidableEq ι] : StepMachine (ι → TaskObj) (ι × TaskOp) (ι × SysCall) where
  step s e :=
    let r := e.2.apply (s e.1)
    (Function.update s e.1 r.task, r.calls.map fun call => (e.1, call))

/-- The lifecycle of a task: no process, one of its own, or none although `fork` was called. -/
inductive Phase where
  | idle | running | broken
  deriving DecidableEq, Repr

namespace Phase

def forked (pid : Int) : Phase := if 0 < pid then running else broken

def step (phase : Phase) (op : TaskOp) : Phase :=
  let stopped := if op.stops then idle else phase
  match stopped, op.forks with
  | idle, some pid => forked pid
  | _, _ => stopped

end Phase

def lifecycles [DecidableEq ι] : StepMachine (ι → Phase) (ι × TaskOp) Unit where
  step s e := (Function.update s e.1 ((s e.1).step e.2), [])

def NeverStopsBroken [DecidableEq ι] (es : List (ι × TaskOp)) : Prop :=
  lifecycles.AllSteps (fun phases e => phases e.1 = .broken → e.2.stops = false)
    (fun _ => .idle) es

def childrenAfter (children : List (ι × Int)) : ι × SysCall → List (ι × Int)
  | (i, .fork pid) => if 0 < pid then (i, pid) :: children else children
  | (_, .waitpid pid) => children.filter (·.2 ≠ pid)
  | _ => children

/-- A call that signals or waits does so for an unreaped child that its own task forked. -/
def CallSafe (children : List (ι × Int)) : ι × SysCall → Prop
  | (i, .kill pid) => 0 < pid ∧ (i, pid) ∈ children
  | (i, .waitpid pid) => 0 < pid ∧ (i, pid) ∈ children
  | _ => True

/-- What `fork` may return: -1, or a pid that no unreaped child has. -/
def ForkLawful (children : List (ι × Int)) : ι × SysCall → Prop
  | (_, .fork pid) => pid = -1 ∨ 0 < pid ∧ ∀ child ∈ children, child.2 ≠ pid
  | _ => True

instance (children : List (ι × Int)) : ∀ call, Decidable (ForkLawful children call)
  | (_, .fork pid) =>
      inferInstanceAs (Decidable (pid = -1 ∨ 0 < pid ∧ ∀ child ∈ children, child.2 ≠ pid))
  | (_, .kill _) | (_, .waitpid _) | (_, .close _) | (_, .watchCreate _ _) | (_, .watchDestroy _)
  | (_, .timerDestroy) | (_, .deleteClient _) | (_, .deleteServer) => .isTrue trivial

def ledger : StepMachine (List (ι × Int)) (ι × SysCall) Unit where
  step children call := (childrenAfter children call, [])

def KillSafe (calls : List (ι × SysCall)) : Prop := ledger.AllSteps CallSafe [] calls

def Lawful (calls : List (ι × SysCall)) : Prop := ledger.AllSteps ForkLawful [] calls

theorem childrenAfter_inert {call : SysCall} (inert : call.Inert) (children : List (ι × Int))
    (i : ι) : childrenAfter children (i, call) = children := by
  cases call <;> first | rfl | exact inert.elim

theorem ledger_inert {P : List (ι × Int) → ι × SysCall → Prop} {calls : List SysCall} {i : ι}
    (free : ∀ children call, call.Inert → P children (i, call))
    (inert : ∀ call ∈ calls, call.Inert) (children : List (ι × Int)) :
    ledger.AllSteps P children (calls.map (Prod.mk i)) ∧
      ledger.run children (calls.map (Prod.mk i)) = children := by
  induction calls with
  | nil => exact ⟨trivial, rfl⟩
  | cons call calls ih =>
      rcases ih fun other member => inert other (List.mem_cons_of_mem call member) with ⟨rest, same⟩
      have first := inert call List.mem_cons_self
      have stays : ledger.next children (i, call) = children := childrenAfter_inert first children i
      rw [List.map_cons, StepMachine.allSteps_cons, StepMachine.run_cons, stays]
      exact ⟨⟨free children call first, rest⟩, same⟩

theorem ledger_stopTask {P : List (ι × Int) → ι × SysCall → Prop} {i : ι}
    (free : ∀ children call, call.Inert → P children (i, call)) {t : TaskObj}
    (active : t.mStatus ≠ .U) (children : List (ι × Int)) :
    (ledger.AllSteps P children (t.stopTask.calls.map (Prod.mk i)) ↔
        P children (i, .kill t.mPid) ∧ P children (i, .waitpid t.mPid)) ∧
      ledger.run children (t.stopTask.calls.map (Prod.mk i)) =
        childrenAfter children (i, .waitpid t.mPid) := by
  have killed : ledger.next children (i, .kill t.mPid) = children := rfl
  rcases ledger_inert free t.closeReadIo_inert children with ⟨quiet, same⟩
  rw [TaskObj.stopTask_calls active, List.map_cons, List.map_append, StepMachine.allSteps_cons,
    StepMachine.allSteps_append, StepMachine.run_cons, StepMachine.run_append, killed, same]
  constructor
  · constructor
    · intro steps
      exact ⟨steps.1, steps.2.2.1⟩
    · intro both
      exact ⟨both.1, quiet, both.2, trivial⟩
  · rfl

theorem distinct_reap {children : List (ι × Int)} (distinct : (children.map Prod.snd).Nodup)
    (i : ι) (pid : Int) :
    ((childrenAfter children (i, .waitpid pid)).map Prod.snd).Nodup := by
  apply List.Nodup.sublist _ distinct
  exact List.filter_sublist.map Prod.snd

theorem distinct_fork {children : List (ι × Int)} (distinct : (children.map Prod.snd).Nodup)
    {pid : Int} (unused : ∀ child ∈ children, child.2 ≠ pid) (i : ι) :
    (((i, pid) :: children).map Prod.snd).Nodup := by
  apply List.nodup_cons.mpr
  constructor
  · intro taken
    rcases List.mem_map.mp taken with ⟨child, member, shared⟩
    exact unused child member shared
  · exact distinct

def phaseOf (t : TaskObj) : Phase := if t.mStatus = .U then .idle else .forked t.mPid

theorem forked_eq_running {pid : Int} : Phase.forked pid = .running ↔ 0 < pid := by
  rw [Phase.forked]
  split <;> simp_all

theorem forked_eq_broken {pid : Int} : Phase.forked pid = .broken ↔ ¬ 0 < pid := by
  rw [Phase.forked]
  split <;> simp_all

theorem forked_ne_idle (pid : Int) : Phase.forked pid ≠ .idle := by
  rw [Phase.forked]
  split <;> simp

theorem phaseOf_eq_idle {t : TaskObj} : phaseOf t = .idle ↔ t.mStatus = .U := by
  rw [phaseOf]
  split
  · simp_all
  · simp_all [forked_ne_idle]

theorem phaseOf_active {t : TaskObj} (active : t.mStatus ≠ .U) : phaseOf t = .forked t.mPid :=
  if_neg active

/-- A running task's process is an unreaped child of that task, and no two children share a
pid. -/
structure Accounted (children : List (ι × Int)) (s : ι → TaskObj) : Prop where
  own : ∀ i, phaseOf (s i) = .running → (i, (s i).mPid) ∈ children
  distinct : (children.map Prod.snd).Nodup

section Steps

variable [DecidableEq ι] {children : List (ι × Int)} {s : ι → TaskObj} {i : ι}

/-- The account of the other tasks carries over, and that of task `i` is looked at. -/
theorem accounted_update {children' : List (ι × Int)} {t : TaskObj}
    (others : ∀ j, j ≠ i → phaseOf (s j) = .running → (j, (s j).mPid) ∈ children')
    (mine : phaseOf t = .running → (i, t.mPid) ∈ children')
    (distinct : (children'.map Prod.snd).Nodup) :
    Accounted children' (Function.update s i t) := by
  refine ⟨?_, distinct⟩
  intro j running
  by_cases same : j = i
  · subst same
    rw [Function.update_self] at running ⊢
    exact mine running
  · rw [Function.update_of_ne same] at running ⊢
    exact others j same running

theorem accounted_reap (accounted : Accounted children s) (running : phaseOf (s i) = .running)
    {t : TaskObj} (idle : phaseOf t = .idle) :
    Accounted (childrenAfter children (i, .waitpid (s i).mPid)) (Function.update s i t) := by
  have dead : phaseOf t ≠ .running := by
    rw [idle]
    decide
  apply accounted_update _ (fun alive => absurd alive dead)
  · exact distinct_reap accounted.distinct i _
  · intro j differs alive
    have mine := accounted.own i running
    have other := accounted.own j alive
    have unlike : (s j).mPid ≠ (s i).mPid := by
      intro shared
      have pair := List.inj_on_of_nodup_map accounted.distinct other mine shared
      exact differs (congrArg Prod.fst pair)
    exact List.mem_filter.mpr ⟨other, decide_eq_true unlike⟩

theorem accounted_fork (accounted : Accounted children s) {pid : Int}
    (lawful : ForkLawful children (i, .fork pid)) {t : TaskObj} (phase : phaseOf t = .forked pid)
    (stored : t.mPid = pid) :
    Accounted (childrenAfter children (i, .fork pid)) (Function.update s i t) := by
  dsimp only [childrenAfter]
  by_cases positive : 0 < pid
  · rw [if_pos positive]
    have unused : ∀ child ∈ children, child.2 ≠ pid := by
      rcases lawful with failed | ⟨_, unused⟩
      · omega
      · exact unused
    apply accounted_update
    · intro j _ running
      exact List.mem_cons_of_mem _ (accounted.own j running)
    · intro _
      rw [stored]
      exact List.mem_cons_self
    · exact distinct_fork accounted.distinct unused i
  · rw [if_neg positive]
    apply accounted_update _ _ accounted.distinct
    · intro j _ running
      exact accounted.own j running
    · intro running
      rw [phase, forked_eq_running] at running
      exact absurd running positive

theorem accounted_same (accounted : Accounted children s) {t : TaskObj}
    (phase : phaseOf t = phaseOf (s i)) (stored : t.mPid = (s i).mPid) :
    Accounted children (Function.update s i t) := by
  apply accounted_update _ _ accounted.distinct
  · intro j _ running
    exact accounted.own j running
  · intro running
    rw [stored]
    exact accounted.own i (phase ▸ running)

/-- Calls that task `i` makes on its way to the state `t`: they are safe exactly when `ok`
holds, and then the account stays right. -/
structure Leg (children : List (ι × Int)) (s : ι → TaskObj) (i : ι) (calls : List SysCall)
    (t : TaskObj) (ok : Prop) : Prop where
  safe : ledger.AllSteps CallSafe children (calls.map (Prod.mk i)) ↔ ok
  accounted : ok → Accounted (ledger.run children (calls.map (Prod.mk i))) (Function.update s i t)

theorem Leg.congr {calls : List SysCall} {t : TaskObj} {ok ok' : Prop}
    (leg : Leg children s i calls t ok) (same : ok ↔ ok') : Leg children s i calls t ok' :=
  ⟨leg.safe.trans same, fun held => leg.accounted (same.mpr held)⟩

theorem Leg.append {first second : List SysCall} {t t' : TaskObj} {ok ok' : Prop}
    (leg : Leg children s i first t ok)
    (next : ok → Leg (ledger.run children (first.map (Prod.mk i))) (Function.update s i t) i second
      t' ok') :
    Leg children s i (first ++ second) t' (ok ∧ ok') := by
  constructor
  · rw [List.map_append, StepMachine.allSteps_append, leg.safe]
    exact and_congr_right fun held => (next held).safe
  · intro both
    have accounted := (next both.1).accounted both.2
    rwa [Function.update_idem, ← StepMachine.run_append, ← List.map_append] at accounted

theorem Leg.append_free {first second : List SysCall} {t t' : TaskObj} {ok : Prop}
    (leg : Leg children s i first t ok)
    (next : ok → Leg (ledger.run children (first.map (Prod.mk i))) (Function.update s i t) i second
      t' True) : Leg children s i (first ++ second) t' ok :=
  (leg.append next).congr (iff_of_eq (and_true ok))

omit [DecidableEq ι] in
theorem callSafe_inert (i : ι) (children : List (ι × Int)) (call : SysCall) (inert : call.Inert) :
    CallSafe children (i, call) := by
  cases call <;> trivial

theorem leg_inert (accounted : Accounted children s) {calls : List SysCall}
    (inert : ∀ call ∈ calls, call.Inert) {t : TaskObj} (phase : phaseOf t = phaseOf (s i))
    (stored : t.mPid = (s i).mPid) : Leg children s i calls t True := by
  rcases ledger_inert (callSafe_inert i) inert children with ⟨safe, same⟩
  refine ⟨iff_true_intro safe, fun _ => ?_⟩
  rw [same]
  exact accounted_same accounted phase stored

theorem stopTask_leg (accounted : Accounted children s) :
    Leg children s i (s i).stopTask.calls (s i).stopTask.task (phaseOf (s i) ≠ .broken) := by
  by_cases idle : (s i).mStatus = .U
  · have phase := phaseOf_eq_idle.mpr idle
    rw [TaskObj.stopTask_of_idle idle, phase]
    exact ⟨by simp, fun _ => accounted_same accounted rfl rfl⟩
  · have own : phaseOf (s i) ≠ .broken ↔ 0 < (s i).mPid ∧ (i, (s i).mPid) ∈ children := by
      rw [phaseOf_active idle, ne_eq, forked_eq_broken, not_not]
      constructor
      · intro positive
        have running : phaseOf (s i) = .running :=
          (phaseOf_active idle).trans (forked_eq_running.mpr positive)
        exact ⟨positive, accounted.own i running⟩
      · exact And.left
    rcases ledger_stopTask (callSafe_inert i) idle children with ⟨steps, left⟩
    constructor
    · rw [steps, own]
      exact and_self_iff
    · intro sound
      have running : phaseOf (s i) = .running :=
        (phaseOf_active idle).trans (forked_eq_running.mpr (own.mp sound).1)
      rw [left]
      exact accounted_reap accounted running (phaseOf_eq_idle.mpr (s i).stopTask_idle)

theorem startTask_leg (accounted : Accounted children s) (pid : Int)
    (lawful : ledger.AllSteps ForkLawful children (((s i).startTask pid).calls.map (Prod.mk i))) :
    Leg children s i ((s i).startTask pid).calls ((s i).startTask pid).task True := by
  by_cases idle : (s i).mStatus = .U
  · rw [TaskObj.startTask_of_idle idle] at lawful ⊢
    exact ⟨by simp [CallSafe], fun _ => accounted_fork accounted lawful.1 rfl rfl⟩
  · rw [TaskObj.startTask_of_active idle]
    exact leg_inert accounted (by simp) rfl rfl

theorem restartTask_leg (accounted : Accounted children s) {pid : Int}
    (lawful : ledger.AllSteps ForkLawful children (((s i).restartTask pid).calls.map (Prod.mk i))) :
    Leg children s i ((s i).restartTask pid).calls ((s i).restartTask pid).task
      (phaseOf (s i) ≠ .broken) := by
  have stopped := stopTask_leg (i := i) accounted
  rw [show ((s i).restartTask pid).calls =
    (s i).stopTask.calls ++ ((s i).stopTask.task.startTask pid).calls from rfl] at lawful ⊢
  apply stopped.append_free
  intro sound
  have started := startTask_leg (i := i) (stopped.accounted sound) pid
  rw [Function.update_self] at started
  rw [List.map_append, StepMachine.allSteps_append] at lawful
  exact started lawful.2

theorem clearTask_calls (t : TaskObj) :
    ∃ destroyed, (∀ call ∈ destroyed, call.Inert) ∧
      t.clearTask.calls =
        t.stopTaskClient.calls ++ t.stopTaskClient.task.stopTask.calls ++ destroyed ∧
      phaseOf t.clearTask.task = phaseOf t.stopTaskClient.task.stopTask.task ∧
      t.clearTask.task.mPid = t.stopTaskClient.task.stopTask.task.mPid := by
  refine ⟨if t.stopTaskClient.task.stopTask.task.mTimer.isSome then [.timerDestroy] else [], ?_, ?_⟩
  · split <;> simp [SysCall.Inert]
  · rw [TaskObj.clearTask]
    dsimp only
    by_cases idle : t.stopTaskClient.task.mStatus = .U
    · rw [TaskObj.stopTask_of_idle idle, if_neg (not_not.mpr idle)]
      exact ⟨rfl, rfl, rfl⟩
    · rw [if_pos idle]
      exact ⟨rfl, rfl, rfl⟩

theorem clearTask_leg (accounted : Accounted children s) :
    Leg children s i (s i).clearTask.calls (s i).clearTask.task (phaseOf (s i) ≠ .broken) := by
  have detaching := (s i).stopTaskClient_task
  have phase : phaseOf (s i).stopTaskClient.task = phaseOf (s i) := by rw [detaching]; rfl
  have stored : (s i).stopTaskClient.task.mPid = (s i).mPid := by rw [detaching]
  rcases clearTask_calls (s i) with ⟨destroyed, inert, calls, phase', stored'⟩
  have detached := leg_inert accounted (s i).stopTaskClient_inert phase stored
  rw [calls]
  have stopped := detached.append fun held => by
    have leg := stopTask_leg (i := i) (detached.accounted held)
    rwa [Function.update_self] at leg
  have cleared := stopped.append_free fun held => by
    have leg := leg_inert (i := i) (t := (s i).clearTask.task) (stopped.accounted held) inert
    rw [Function.update_self] at leg
    exact leg phase' stored'
  exact cleared.congr (by rw [phase]; simp)

/-- An operation is safe exactly when it does not stop a task whose `fork` failed. -/
theorem apply_leg (accounted : Accounted children s) (op : TaskOp)
    (lawful : ledger.AllSteps ForkLawful children ((op.apply (s i)).calls.map (Prod.mk i))) :
    Leg children s i (op.apply (s i)).calls (op.apply (s i)).task
      (phaseOf (s i) = .broken → op.stops = false) := by
  cases op with
  | start pid => exact (startTask_leg accounted pid lawful).congr (by simp [TaskOp.stops])
  | stop => exact (stopTask_leg accounted).congr (by simp [TaskOp.stops])
  | restart pid => exact (restartTask_leg accounted lawful).congr (by simp [TaskOp.stops])
  | timeout pid => exact (restartTask_leg accounted lawful).congr (by simp [TaskOp.stops])
  | clear => exact (clearTask_leg accounted).congr (by simp [TaskOp.stops])

theorem phaseOf_startTask (t : TaskObj) (pid : Int) :
    phaseOf (t.startTask pid).task = (phaseOf t).step (.start pid) := by
  by_cases idle : t.mStatus = .U
  · rw [phaseOf_eq_idle.mpr idle]
    simp [TaskObj.startTask, idle, phaseOf, Phase.step, TaskOp.stops, TaskOp.forks]
  · rw [TaskObj.startTask_of_active idle]
    have active : phaseOf t ≠ .idle := fun same => idle (phaseOf_eq_idle.mp same)
    cases phase : phaseOf t with
    | idle => exact absurd phase active
    | running => rfl
    | broken => rfl

/-- The lifecycle automaton is what the code does to a task, seen through status and pid. -/
theorem phaseOf_apply (t : TaskObj) (op : TaskOp) :
    phaseOf (op.apply t).task = (phaseOf t).step op := by
  have restarted (pid : Int) : phaseOf (t.restartTask pid).task = .forked pid := by
    have started := phaseOf_startTask t.stopTask.task pid
    rw [phaseOf_eq_idle.mpr (TaskObj.stopTask_idle t)] at started
    exact started
  cases op with
  | start pid => exact phaseOf_startTask t pid
  | stop => exact phaseOf_eq_idle.mpr (TaskObj.stopTask_idle t)
  | restart pid => exact restarted pid
  | timeout pid => exact restarted pid
  | clear =>
      rcases clearTask_calls t with ⟨_, _, _, phase, _⟩
      exact phase.trans (phaseOf_eq_idle.mpr (TaskObj.stopTask_idle _))

theorem phases_next (s : ι → TaskObj) (e : ι × TaskOp) :
    (fun i => phaseOf (tasks.next s e i)) = lifecycles.next (fun i => phaseOf (s i)) e := by
  funext i
  change phaseOf (Function.update s e.1 (e.2.apply (s e.1)).task i) =
    Function.update (fun i => phaseOf (s i)) e.1 ((phaseOf (s e.1)).step e.2) i
  by_cases same : i = e.1
  · rw [same, Function.update_self, Function.update_self, phaseOf_apply]
  · rw [Function.update_of_ne same, Function.update_of_ne same]

theorem run_safe_iff {es : List (ι × TaskOp)} (accounted : Accounted children s)
    (lawful : ledger.AllSteps ForkLawful children (tasks.trace s es)) :
    ledger.AllSteps CallSafe children (tasks.trace s es) ↔
      lifecycles.AllSteps (fun phases e => phases e.1 = .broken → e.2.stops = false)
        (fun i => phaseOf (s i)) es := by
  induction es generalizing children s with
  | nil => simp
  | cons e es ih =>
      rw [StepMachine.trace_cons, StepMachine.allSteps_append] at lawful ⊢
      have leg := apply_leg (i := e.1) accounted e.2 lawful.1
      have emitted : tasks.emit s e = ((e.2.apply (s e.1)).calls.map (Prod.mk e.1)) := rfl
      rw [emitted] at lawful ⊢
      rw [leg.safe, StepMachine.allSteps_cons, ← phases_next]
      exact and_congr_right fun sound => ih (leg.accounted sound) lawful.2

end Steps

variable [DecidableEq ι]

/-- From tasks that are not running, and with an operating system that hands out no pid twice
at a time: each process signalled or waited for is an unreaped child of the task that does it,
exactly when no operation stops a task whose `fork` failed. -/
theorem kill_safe_iff {s : ι → TaskObj} (unknown : ∀ i, (s i).mStatus = .U)
    {es : List (ι × TaskOp)} (lawful : Lawful (tasks.trace s es)) :
    KillSafe (tasks.trace s es) ↔ NeverStopsBroken es := by
  have idle : (fun i => phaseOf (s i)) = fun _ => .idle :=
    funext fun i => phaseOf_eq_idle.mpr (unknown i)
  have accounted : Accounted [] s := by
    refine ⟨?_, List.nodup_nil⟩
    intro i running
    rw [phaseOf_eq_idle.mpr (unknown i)] at running
    cases running
  have both := run_safe_iff accounted lawful
  rwa [idle] at both

def freshTask : TaskObj :=
  ⟨text "cat", text "/bin/cat", [], 5, 0, some (.create 3 5), .U, none, none, 0⟩

def quietRun : List (Bool × TaskOp) :=
  [(true, .start 40), (false, .start 41), (true, .restart 42), (false, .stop), (false, .start 40),
    (true, .clear)]

theorem kill_safe_iff_quiet :
    KillSafe (tasks.trace (fun _ => freshTask) quietRun) ↔ NeverStopsBroken quietRun := by
  apply kill_safe_iff (fun _ => rfl)
  rw [Lawful]
  decide +kernel

/-- `fork` fails, and the task is stopped: the daemon sends SIGKILL to pid -1. -/
theorem failed_fork_kills_all :
    ¬ ∀ es : List (Unit × TaskOp), Lawful (tasks.trace (fun _ => freshTask) es) →
      KillSafe (tasks.trace (fun _ => freshTask) es) := by
  intro claimed
  have safe := claimed [((), .start (-1)), ((), .stop)] ⟨.inl rfl, trivial, trivial, trivial⟩
  have signalled : CallSafe [] ((), SysCall.kill (-1)) := safe.2.1
  exact absurd signalled.1 (by decide)

end TaskMonitor
