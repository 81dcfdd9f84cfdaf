import TaskMonitor.KillSafety

/-! Which processes wait to be reaped, over runs of any number of tasks and with children that
die on their own. -/

namespace TaskMonitor

open CText

variable {ι : Type*}

/-- Tasks with the daemon's children. A child stays with the daemon until it is reaped: it is a
zombie when its pid is not in `alive`. -/
structure Family (ι : Type*) where
  tasks : ι → TaskObj
  children : List (ι × Int)
  alive : List Int

inductive FamilyEvent (ι : Type*) where
  | op (i : ι) (op : TaskOp)
  | death (pid : Int)

/-- The pids of the living children after a call. `kill` with -1 spares none. -/
def aliveAfter (alive : List Int) : SysCall → List Int
  | .fork pid => if 0 < pid then pid :: alive else alive
  | .kill pid => if pid = -1 then [] else alive.filter (· ≠ pid)
  | .waitpid pid => alive.filter (· ≠ pid)
  | _ => alive

def family [DecidableEq ι] : StepMachine (Family ι) (FamilyEvent ι) (ι × SysCall) where
  step f
    | .op i op =>
        let r := op.apply (f.tasks i)
        let calls := r.calls.map (Prod.mk i)
        (⟨Function.update f.tasks i r.task, ledger.run f.children calls,
          r.calls.foldl aliveAfter f.alive⟩, calls)
    | .death pid => ({ f with alive := f.alive.filter (· ≠ pid) }, [])

def ForkSucceeds (children : List (ι × Int)) : ι × SysCall → Prop
  | (_, .fork pid) => 0 < pid ∧ ∀ child ∈ children, child.2 ≠ pid
  | _ => True

instance (children : List (ι × Int)) : ∀ call, Decidable (ForkSucceeds children call)
  | (_, .fork pid) => inferInstanceAs (Decidable (0 < pid ∧ ∀ child ∈ children, child.2 ≠ pid))
  | (_, .kill _) | (_, .waitpid _) | (_, .close _) | (_, .watchCreate _ _) | (_, .watchDestroy _)
  | (_, .timerDestroy) | (_, .deleteClient _) | (_, .deleteServer) => .isTrue trivial

def ForksSucceed (f : Family ι) : FamilyEvent ι → Prop
  | .op i op =>
      ledger.AllSteps ForkSucceeds f.children ((op.apply (f.tasks i)).calls.map (Prod.mk i))
  | .death _ => True

instance [DecidableEq ι] (f : Family ι) : ∀ e, Decidable (ForksSucceed f e)
  | .op i op => inferInstanceAs (Decidable (ledger.AllSteps ForkSucceeds f.children
      ((op.apply (f.tasks i)).calls.map (Prod.mk i))))
  | .death _ => .isTrue trivial

def FirstCopy (children : List (ι × Int)) : ι × SysCall → Prop
  | (i, .fork _) => ∀ child ∈ children, child.1 ≠ i
  | _ => True

/-- No task gets a second child, and an operation that stops a task leaves it no child but one
that it has just forked. -/
def NoneLeft [DecidableEq ι] (f : Family ι) : FamilyEvent ι → Prop
  | .op i op =>
      ledger.AllSteps FirstCopy f.children ((op.apply (f.tasks i)).calls.map (Prod.mk i)) ∧
        (op.stops = true → ∀ pid, (i, pid) ∈ (family.next f (.op i op)).children →
          op.forks = some pid)
  | .death _ => True

/-- The children are the processes of the tasks that are not in `TASK_STATUS_U`: one each. -/
structure OneEach (children : List (ι × Int)) (s : ι → TaskObj) : Prop where
  own : ∀ i pid, (i, pid) ∈ children ↔ (s i).mStatus ≠ .U ∧ (s i).mPid = pid
  distinct : (children.map Prod.snd).Nodup

namespace OneEach

variable {children : List (ι × Int)} {s : ι → TaskObj}

theorem single (one : OneEach children s) : (children.map Prod.fst).Nodup := by
  apply List.Nodup.map_on _ (List.Nodup.of_map Prod.snd one.distinct)
  rintro ⟨i, pid⟩ first ⟨j, pid'⟩ second same
  obtain rfl : i = j := same
  rw [← ((one.own i pid).mp first).2, ← ((one.own i pid').mp second).2]

theorem childless (one : OneEach children s) {i : ι} (idle : (s i).mStatus = .U) :
    ∀ child ∈ children, child.1 ≠ i := by
  rintro ⟨j, pid⟩ member same
  obtain rfl : j = i := same
  exact ((one.own j pid).mp member).1 idle

end OneEach

section Steps

variable [DecidableEq ι] {children : List (ι × Int)} {s : ι → TaskObj} {i : ι}

theorem oneEach_update {children' : List (ι × Int)} {t : TaskObj} (one : OneEach children s)
    (others : ∀ j, j ≠ i → ∀ pid, (j, pid) ∈ children' ↔ (j, pid) ∈ children)
    (mine : ∀ pid, (i, pid) ∈ children' ↔ t.mStatus ≠ .U ∧ t.mPid = pid)
    (distinct : (children'.map Prod.snd).Nodup) :
    OneEach children' (Function.update s i t) := by
  refine ⟨?_, distinct⟩
  intro j pid
  by_cases same : j = i
  · subst same
    rw [Function.update_self, mine]
  · rw [Function.update_of_ne same, others j same, one.own]

theorem oneEach_reap (one : OneEach children s) (active : (s i).mStatus ≠ .U) {t : TaskObj}
    (idle : t.mStatus = .U) :
    OneEach (childrenAfter children (i, .waitpid (s i).mPid)) (Function.update s i t) := by
  have held : (i, (s i).mPid) ∈ children := (one.own i _).mpr ⟨active, rfl⟩
  have filtered (j : ι) (pid : Int) : (j, pid) ∈ childrenAfter children (i, .waitpid (s i).mPid) ↔
      (j, pid) ∈ children ∧ pid ≠ (s i).mPid := by
    simp [childrenAfter, List.mem_filter]
  apply oneEach_update one
  · intro j differs pid
    rw [filtered]
    apply and_iff_left_of_imp
    rintro member rfl
    have pair := List.inj_on_of_nodup_map one.distinct member held rfl
    exact differs (congrArg Prod.fst pair)
  · intro pid
    rw [filtered, one.own]
    apply iff_of_false
    · rintro ⟨⟨_, same⟩, differs⟩
      exact differs same.symm
    · intro both
      exact both.1 idle
  · exact distinct_reap one.distinct i _

theorem oneEach_fork (one : OneEach children s) (idle : (s i).mStatus = .U) {pid : Int}
    (succeeds : ForkSucceeds children (i, .fork pid)) {t : TaskObj} (active : t.mStatus ≠ .U)
    (stored : t.mPid = pid) :
    OneEach (childrenAfter children (i, .fork pid)) (Function.update s i t) := by
  have forked : childrenAfter children (i, .fork pid) = (i, pid) :: children :=
    if_pos succeeds.1
  have none_before (pid' : Int) : (i, pid') ∉ children := fun member =>
    one.childless idle _ member rfl
  rw [forked]
  apply oneEach_update one
  · intro j differs pid'
    rw [List.mem_cons, or_iff_right]
    intro same
    exact differs (congrArg Prod.fst same)
  · intro pid'
    rw [List.mem_cons, or_iff_left (none_before pid'), stored, Prod.mk.injEq]
    constructor
    · intro same
      exact ⟨active, same.2.symm⟩
    · intro same
      exact ⟨rfl, same.2.symm⟩
  · exact distinct_fork one.distinct succeeds.2 i

theorem oneEach_same (one : OneEach children s) {t : TaskObj} (status : t.mStatus = (s i).mStatus)
    (stored : t.mPid = (s i).mPid) : OneEach children (Function.update s i t) := by
  apply oneEach_update one _ _ one.distinct
  · intro j _ pid
    rfl
  · intro pid
    rw [status, stored, one.own]

/-- Calls that task `i` makes on its way to the state `t`, without a second copy of it. -/
structure Path (children : List (ι × Int)) (s : ι → TaskObj) (i : ι) (calls : List SysCall)
    (t : TaskObj) : Prop where
  first : ledger.AllSteps FirstCopy children (calls.map (Prod.mk i))
  one : OneEach (ledger.run children (calls.map (Prod.mk i))) (Function.update s i t)

theorem Path.append {first second : List SysCall} {t t' : TaskObj}
    (path : Path children s i first t)
    (next : Path (ledger.run children (first.map (Prod.mk i))) (Function.update s i t) i second
      t') :
    Path children s i (first ++ second) t' := by
  constructor
  · rw [List.map_append, StepMachine.allSteps_append]
    exact ⟨path.first, next.first⟩
  · have one := next.one
    rwa [Function.update_idem, ← StepMachine.run_append, ← List.map_append] at one

omit [DecidableEq ι] in
theorem firstCopy_inert (i : ι) (children : List (ι × Int)) (call : SysCall) (inert : call.Inert) :
    FirstCopy children (i, call) := by
  cases call <;> trivial

theorem path_inert (one : OneEach children s) {calls : List SysCall}
    (inert : ∀ call ∈ calls, call.Inert) {t : TaskObj} (status : t.mStatus = (s i).mStatus)
    (stored : t.mPid = (s i).mPid) : Path children s i calls t := by
  rcases ledger_inert (firstCopy_inert i) inert children with ⟨first, same⟩
  constructor
  · exact first
  · rw [same]
    exact oneEach_same one status stored

theorem stopTask_path (one : OneEach children s) :
    Path children s i (s i).stopTask.calls (s i).stopTask.task := by
  by_cases idle : (s i).mStatus = .U
  · rw [TaskObj.stopTask_of_idle idle]
    exact ⟨trivial, oneEach_same one rfl rfl⟩
  · rcases ledger_stopTask (firstCopy_inert i) idle children with ⟨steps, left⟩
    constructor
    · exact steps.mpr ⟨trivial, trivial⟩
    · rw [left]
      exact oneEach_reap one idle (s i).stopTask_idle

theorem startTask_path (one : OneEach children s) (pid : Int)
    (succeed : ledger.AllSteps ForkSucceeds children
      (((s i).startTask pid).calls.map (Prod.mk i))) :
    Path children s i ((s i).startTask pid).calls ((s i).startTask pid).task := by
  by_cases idle : (s i).mStatus = .U
  · rw [TaskObj.startTask_of_idle idle] at succeed ⊢
    constructor
    · exact ⟨one.childless idle, trivial⟩
    · exact oneEach_fork one idle succeed.1 (by simp) rfl
  · rw [TaskObj.startTask_of_active idle]
    exact path_inert one (by simp) rfl rfl

theorem restartTask_path (one : OneEach children s) (pid : Int)
    (succeed : ledger.AllSteps ForkSucceeds children
      (((s i).restartTask pid).calls.map (Prod.mk i))) :
    Path children s i ((s i).restartTask pid).calls ((s i).restartTask pid).task := by
  have stopped := stopTask_path (i := i) one
  have calls : ((s i).restartTask pid).calls =
      (s i).stopTask.calls ++ ((s i).stopTask.task.startTask pid).calls := rfl
  rw [calls] at succeed ⊢
  rw [List.map_append, StepMachine.allSteps_append] at succeed
  apply stopped.append
  have started := startTask_path (i := i) stopped.one pid
  rw [Function.update_self] at started
  exact started succeed.2

theorem clearTask_path (one : OneEach children s) :
    Path children s i (s i).clearTask.calls (s i).clearTask.task := by
  have detaching := (s i).stopTaskClient_task
  have status : (s i).stopTaskClient.task.mStatus = (s i).mStatus := by rw [detaching]
  have stored : (s i).stopTaskClient.task.mPid = (s i).mPid := by rw [detaching]
  rcases clearTask_calls (s i) with ⟨destroyed, inert, calls, phase, stored'⟩
  have idle : (s i).clearTask.task.mStatus = .U :=
    phaseOf_eq_idle.mp (phase.trans (phaseOf_eq_idle.mpr (TaskObj.stopTask_idle _)))
  have detached := path_inert one (s i).stopTaskClient_inert status stored
  have stopping := stopTask_path (i := i) detached.one
  rw [Function.update_self] at stopping
  have stopped := detached.append stopping
  have clearing := path_inert (i := i) (t := (s i).clearTask.task) stopped.one inert
  rw [Function.update_self] at clearing
  rw [calls]
  apply stopped.append
  exact clearing (idle.trans (TaskObj.stopTask_idle _).symm) stored'

theorem apply_path (one : OneEach children s) (op : TaskOp)
    (succeed : ledger.AllSteps ForkSucceeds children ((op.apply (s i)).calls.map (Prod.mk i))) :
    Path children s i (op.apply (s i)).calls (op.apply (s i)).task := by
  cases op with
  | start pid => exact startTask_path one pid succeed
  | stop => exact stopTask_path one
  | restart pid => exact restartTask_path one pid succeed
  | timeout pid => exact restartTask_path one pid succeed
  | clear => exact clearTask_path one

theorem apply_forked (t : TaskObj) {op : TaskOp} (stops : op.stops = true)
    (active : (op.apply t).task.mStatus ≠ .U) : op.forks = some (op.apply t).task.mPid := by
  have restarted (pid : Int) : (t.restartTask pid).task.mPid = pid := by
    rw [TaskObj.restartTask, TaskObj.startTask_of_idle t.stopTask_idle]
  cases op with
  | start pid => cases stops
  | stop => exact absurd t.stopTask_idle active
  | restart pid => exact congrArg some (restarted pid).symm
  | timeout pid => exact congrArg some (restarted pid).symm
  | clear =>
      rcases clearTask_calls t with ⟨_, _, _, phase, _⟩
      have idle := phaseOf_eq_idle.mp (phase.trans (phaseOf_eq_idle.mpr (TaskObj.stopTask_idle _)))
      exact absurd idle active

theorem family_step {f : Family ι} (one : OneEach f.children f.tasks) (e : FamilyEvent ι)
    (succeed : ForksSucceed f e) :
    OneEach (family.next f e).children (family.next f e).tasks ∧ NoneLeft f e := by
  cases e with
  | death pid => exact ⟨one, trivial⟩
  | op i op =>
      have path := apply_path one op succeed
      refine ⟨path.one, path.first, ?_⟩
      intro stops pid member
      rcases (path.one.own i pid).mp member with ⟨active, stored⟩
      rw [Function.update_self] at active stored
      rw [apply_forked _ stops active, stored]

theorem family_run {f : Family ι} (one : OneEach f.children f.tasks) {es : List (FamilyEvent ι)}
    (succeed : family.AllSteps ForksSucceed f es) :
    OneEach (family.run f es).children (family.run f es).tasks ∧
      family.AllSteps NoneLeft f es := by
  induction es generalizing f with
  | nil => exact ⟨one, trivial⟩
  | cons e es ih =>
      rcases family_step one e succeed.1 with ⟨next, left⟩
      rcases ih next succeed.2 with ⟨last, later⟩
      exact ⟨last, left, later⟩

end Steps

variable [DecidableEq ι]

/-- From tasks in `TASK_STATUS_U` and no children, with forks that succeed: whatever is done to
the tasks and whichever children die, the unreaped children are the `mPid` of the running
tasks, one each; nothing forks a second copy of a task, and nothing that stops a task leaves
its child behind. -/
theorem one_child_per_running_task {s : ι → TaskObj} (unknown : ∀ i, (s i).mStatus = .U)
    {es : List (FamilyEvent ι)} (succeed : family.AllSteps ForksSucceed ⟨s, [], []⟩ es) :
    OneEach (family.run ⟨s, [], []⟩ es).children (family.run ⟨s, [], []⟩ es).tasks ∧
      ((family.run ⟨s, [], []⟩ es).children.map Prod.fst).Nodup ∧
      family.AllSteps NoneLeft ⟨s, [], []⟩ es := by
  have initial : OneEach [] s := by
    refine ⟨?_, List.nodup_nil⟩
    intro i pid
    exact iff_of_false List.not_mem_nil fun both => both.1 (unknown i)
  rcases family_run (f := ⟨s, [], []⟩) initial succeed with ⟨one, left⟩
  exact ⟨one, one.single, left⟩

def busyRun : List (FamilyEvent Bool) :=
  [.op true (.start 40), .op false (.start 41), .death 40, .op true (.timeout 40),
    .op true (.start 42), .op false .stop, .op false (.restart 41), .op true .stop]

theorem one_child_per_running_task_busy :
    OneEach (family.run ⟨fun _ => freshTask, [], []⟩ busyRun).children
        (family.run ⟨fun _ => freshTask, [], []⟩ busyRun).tasks ∧
      ((family.run ⟨fun _ => freshTask, [], []⟩ busyRun).children.map Prod.fst).Nodup ∧
      family.AllSteps NoneLeft ⟨fun _ => freshTask, [], []⟩ busyRun := by
  apply one_child_per_running_task (fun _ => rfl)
  decide +kernel

end TaskMonitor
