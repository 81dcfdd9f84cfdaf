import TaskMonitor.Connections
import TaskMonitor.KillSafety

/-! Which task a pid is looked up to, when the operating system hands out pids again. -/

namespace TaskMonitor

open CText

/-- The daemon with its unreaped children, each beside the task that forked it. -/
structure Host where
  daemon : Daemon
  children : List (Nat × Int)

/-- `reaped` is the child that a wait for any child collects. -/
inductive HostEvent where
  | op (i : Nat) (op : TaskOp) (reaped : Int)
  | connect (pid fd : Int) (env : ConnectEnv)

/-- `waitpid` with -1 collects a child of the operating system's choice. -/
def collected (reaped : Int) : SysCall → SysCall
  | .waitpid pid => .waitpid (if pid = -1 then reaped else pid)
  | call => call

def hostCalls (i : Nat) (reaped : Int) (calls : List SysCall) : List (Nat × SysCall) :=
  (calls.map (collected reaped)).map (Prod.mk i)

def hosts : StepMachine Host HostEvent DaemonOut where
  step h
    | .op i op reaped =>
        match h.daemon.registry.taskList[i]? with
        | none => (h, [])
        | some t =>
            let r := op.apply t
            (⟨h.daemon.setTask i r.task, ledger.run h.children (hostCalls i reaped r.calls)⟩,
              r.calls.map (.task i))
    | .connect pid fd env =>
        let (d, outs) := h.daemon.recvClientConnect pid fd env
        (⟨d, h.children⟩, outs)

/-- `fork` returns -1 or a pid that no unreaped child has. Any other pid may come again. -/
def HostLawful (h : Host) : HostEvent → Prop
  | .op i op reaped => (∀ pid ∈ op.forks, IsPid pid) ∧
      ∀ t, h.daemon.registry.taskList[i]? = some t →
        ledger.AllSteps ForkLawful h.children (hostCalls i reaped (op.apply t).calls)
  | .connect _ _ _ => True

/-- Every child is the process of a running task, and its pid is looked up to that task. -/
def LooksUp (h : Host) : Prop :=
  ∀ child ∈ h.children,
    (∃ t, h.daemon.registry.taskList[child.1]? = some t ∧ t.mStatus ≠ .U ∧ t.mPid = child.2) ∧
      ∀ name, selectTask h.daemon.registry.taskList (UInt32.ofInt child.2) name = some child.1

/-- A client gets to be the connection of a task only if it is the task's own child. -/
def AttachesOwn (h : Host) : HostEvent → Prop
  | .op _ _ _ => True
  | .connect pid fd env => ∀ i t,
      (hosts.next h (.connect pid fd env)).daemon.registry.taskList[i]? = some t →
        t.mClient = some h.daemon.created → (i, pid) ∈ h.children

/-- The pid that is forked or that connects is not one that a task has kept from an earlier
process, where that task would be found first. -/
def NoneKept (h : Host) : HostEvent → Prop
  | .op i op _ => ∀ t, h.daemon.registry.taskList[i]? = some t →
      (op.stops = true ∨ t.mStatus = .U) → ∀ pid ∈ op.forks, 0 < pid →
        ∀ k < i, ∀ t', h.daemon.registry.taskList[k]? = some t' → t'.mPid ≠ pid
  | .connect pid _ env => env.Throws ∨ (∃ i, (i, pid) ∈ h.children) ∨
      ∀ t ∈ h.daemon.registry.taskList, t.mPid ≠ pid

structure SaneTasks (tasks : List TaskObj) (children : List (Nat × Int)) : Prop where
  own : ∀ child ∈ children, 0 < child.2 ∧
    ∃ t, tasks[child.1]? = some t ∧ t.mStatus ≠ .U ∧ t.mPid = child.2
  pids : ∀ t ∈ tasks, IsPid t.mPid

def recorded (tasks : List TaskObj) : List Int := tasks.map TaskObj.mPid

def First (tasks : List TaskObj) (children : List (Nat × Int)) : Prop :=
  ∀ child ∈ children, (recorded tasks).findIdx? (· = child.2) = some child.1

section Lists

variable {tasks : List TaskObj} {children : List (Nat × Int)} {i : Nat} {t : TaskObj}

theorem recorded_set (t' : TaskObj) :
    recorded (tasks.set i t') = (recorded tasks).set i t'.mPid := List.map_set

theorem recorded_set_same (found : tasks[i]? = some t) {t' : TaskObj} (same : t'.mPid = t.mPid) :
    recorded (tasks.set i t') = recorded tasks := by
  rcases List.getElem?_eq_some_iff.mp found with ⟨bound, rfl⟩
  rw [recorded_set, same]
  apply List.ext_getElem?
  intro j
  rw [List.getElem?_set]
  split
  · rename_i here
    subst here
    simp [recorded, bound]
  · rfl

theorem selectTask_recorded (sane : SaneTasks tasks children) {child : Nat × Int}
    (member : child ∈ children) (name : CharArray 32) :
    selectTask tasks (UInt32.ofInt child.2) name =
      (recorded tasks).findIdx? (· = child.2) := by
  rcases sane.own child member with ⟨positive, t, found, _, same⟩
  have range : IsPid child.2 := same ▸ sane.pids t (List.mem_of_getElem? found)
  rw [selectTask_of_pid sane.pids range (by omega), recorded, List.findIdx?_map]
  rfl

theorem first_iff {h : Host} (sane : SaneTasks h.daemon.registry.taskList h.children) :
    First h.daemon.registry.taskList h.children ↔ LooksUp h := by
  constructor
  · intro first child member
    constructor
    · exact (sane.own child member).2
    · intro name
      rw [selectTask_recorded sane member]
      exact first child member
  · intro looks child member
    rw [← selectTask_recorded sane member (.zero 32 nameSize_pos)]
    exact (looks child member).2 _

theorem SaneTasks.childless (sane : SaneTasks tasks children) (found : tasks[i]? = some t)
    (idle : t.mStatus = .U) : ∀ child ∈ children, child.1 ≠ i := by
  intro child member same
  rcases sane.own child member with ⟨_, t', found', active, _⟩
  rw [same, found] at found'
  obtain rfl := Option.some.inj found'
  exact active idle

theorem pids_set (pids : ∀ t ∈ tasks, IsPid t.mPid) {t' : TaskObj} (range : IsPid t'.mPid) :
    ∀ t ∈ tasks.set i t', IsPid t.mPid := by
  intro t member
  rcases List.mem_or_eq_of_mem_set member with old | rfl
  · exact pids t old
  · exact range

theorem SaneTasks.elsewhere (sane : SaneTasks tasks children) (t' : TaskObj) {child : Nat × Int}
    (member : child ∈ children) (elsewhere : child.1 ≠ i) : 0 < child.2 ∧
      ∃ t, (tasks.set i t')[child.1]? = some t ∧ t.mStatus ≠ .U ∧ t.mPid = child.2 := by
  rcases sane.own child member with ⟨positive, t, found, running⟩
  exact ⟨positive, t, (List.getElem?_set_ne elsewhere.symm).trans found, running⟩

theorem First.elsewhere (first : First tasks children) {t' : TaskObj} {child : Nat × Int}
    (member : child ∈ children) (elsewhere : child.1 ≠ i) (differs : t'.mPid ≠ child.2) :
    (recorded (tasks.set i t')).findIdx? (· = child.2) = some child.1 := by
  rw [recorded_set]
  exact FirstIndex.findIdx?_set_ne (first child member) elsewhere.symm differs

theorem sane_fewer (sane : SaneTasks tasks children) (found : tasks[i]? = some t) {t' : TaskObj}
    (same : t'.mPid = t.mPid) {left : List (Nat × Int)}
    (fewer : ∀ child ∈ left, child ∈ children ∧ child.1 ≠ i) :
    SaneTasks (tasks.set i t') left ∧ (First tasks children → First (tasks.set i t') left) := by
  constructor
  · constructor
    · intro child member
      rcases fewer child member with ⟨old, elsewhere⟩
      exact sane.elsewhere t' old elsewhere
    · apply pids_set sane.pids
      rw [same]
      exact sane.pids t (List.mem_of_getElem? found)
  · intro first child member
    rw [recorded_set_same found same]
    exact first child (fewer child member).1

theorem sane_same (sane : SaneTasks tasks children) (found : tasks[i]? = some t) {t' : TaskObj}
    (status : t'.mStatus = t.mStatus) (same : t'.mPid = t.mPid) :
    SaneTasks (tasks.set i t') children := by
  rcases List.getElem?_eq_some_iff.mp found with ⟨bound, _⟩
  constructor
  · intro child member
    rcases sane.own child member with ⟨positive, t'', found', active, stored⟩
    by_cases here : i = child.1
    · subst here
      rw [found] at found'
      obtain rfl := Option.some.inj found'
      exact ⟨positive, t', List.getElem?_set_self bound, status ▸ active, same.trans stored⟩
    · exact ⟨positive, t'', (List.getElem?_set_ne here).trans found', active, stored⟩
  · apply pids_set sane.pids
    rw [same]
    exact sane.pids t (List.mem_of_getElem? found)

theorem first_forked_iff (found : tasks[i]? = some t)
    (childless : ∀ child ∈ children, child.1 ≠ i) {pid : Int}
    (unused : ∀ child ∈ children, child.2 ≠ pid) {t' : TaskObj} (stored : t'.mPid = pid)
    (first : First tasks children) :
    First (tasks.set i t') ((i, pid) :: children) ↔
      ∀ k < i, ∀ t', tasks[k]? = some t' → t'.mPid ≠ pid := by
  rcases List.getElem?_eq_some_iff.mp found with ⟨bound, _⟩
  have length : i < (recorded tasks).length := by rwa [recorded, List.length_map]
  have placed : (recorded (tasks.set i t')).findIdx? (· = pid) = some i ↔
      ∀ k < i, ∀ t', tasks[k]? = some t' → t'.mPid ≠ pid := by
    rw [recorded_set, stored, FirstIndex.findIdx?_set_self length]
    simp [recorded]
  constructor
  · intro first'
    exact placed.mp (first' (i, pid) List.mem_cons_self)
  · intro unkept child member
    cases List.mem_cons.mp member with
    | inl new =>
        rw [new]
        exact placed.mpr unkept
    | inr old =>
        have differs : t'.mPid ≠ child.2 := by
          rw [stored]
          exact (unused child old).symm
        exact first.elsewhere old (childless child old) differs

/-- A `fork` for a task without a child. The new pid is found at the task exactly when no task
in front has it. -/
theorem sane_fork (sane : SaneTasks tasks children) (found : tasks[i]? = some t)
    (childless : ∀ child ∈ children, child.1 ≠ i) {pid : Int} (range : IsPid pid)
    (lawful : ForkLawful children (i, .fork pid)) {t' : TaskObj} (active : t'.mStatus ≠ .U)
    (stored : t'.mPid = pid) :
    SaneTasks (tasks.set i t') (childrenAfter children (i, .fork pid)) ∧
      (First tasks children →
        (First (tasks.set i t') (childrenAfter children (i, .fork pid)) ↔
          (0 < pid → ∀ k < i, ∀ t', tasks[k]? = some t' → t'.mPid ≠ pid))) := by
  rcases List.getElem?_eq_some_iff.mp found with ⟨bound, _⟩
  have pids := pids_set (i := i) sane.pids (stored.symm ▸ range : IsPid t'.mPid)
  have others : ∀ child ∈ children, 0 < child.2 ∧
      ∃ t, (tasks.set i t')[child.1]? = some t ∧ t.mStatus ≠ .U ∧ t.mPid = child.2 :=
    fun child member => sane.elsewhere t' member (childless child member)
  by_cases positive : 0 < pid
  · have forked : childrenAfter children (i, .fork pid) = (i, pid) :: children := if_pos positive
    have unused : ∀ child ∈ children, child.2 ≠ pid := by
      rcases lawful with failed | ⟨_, unused⟩
      · omega
      · exact unused
    rw [forked]
    constructor
    · apply SaneTasks.mk _ pids
      intro child member
      rcases List.mem_cons.mp member with rfl | old
      · exact ⟨positive, t', List.getElem?_set_self bound, active, stored⟩
      · exact others child old
    · intro first
      rw [first_forked_iff found childless unused stored first]
      exact ⟨fun unkept _ => unkept, fun unkept => unkept positive⟩
  · have failed : childrenAfter children (i, .fork pid) = children := if_neg positive
    rw [failed]
    constructor
    · exact ⟨others, pids⟩
    · intro first
      apply iff_of_true _ fun alive => absurd alive positive
      intro child member
      have childPositive := (others child member).1
      exact first.elsewhere member (childless child member) (by omega)

theorem collected_inert (reaped : Int) {call : SysCall} (inert : call.Inert) :
    collected reaped call = call := by
  cases call <;> first | rfl | exact inert.elim

theorem hostCalls_append (i : Nat) (reaped : Int) (front back : List SysCall) :
    hostCalls i reaped (front ++ back) = hostCalls i reaped front ++ hostCalls i reaped back := by
  simp [hostCalls]

theorem hostCalls_inert (reaped : Int) {calls : List SysCall} (inert : ∀ call ∈ calls, call.Inert)
    (children : List (Nat × Int)) : ledger.run children (hostCalls i reaped calls) = children := by
  have same : calls.map (collected reaped) = calls :=
    calc
      calls.map (collected reaped) = calls.map id :=
        List.map_congr_left fun call member => collected_inert reaped (inert call member)
      _ = calls := List.map_id calls
  rw [hostCalls, same]
  exact (ledger_inert (P := fun _ _ => True) (fun _ _ _ => trivial) inert children).2

theorem stopTask_left (sane : SaneTasks tasks children) (found : tasks[i]? = some t) {t' : TaskObj}
    (status : t'.mStatus = t.mStatus) (stored : t'.mPid = t.mPid) (reaped : Int) :
    ∀ child ∈ ledger.run children (hostCalls i reaped t'.stopTask.calls),
      child ∈ children ∧ child.1 ≠ i := by
  by_cases idle : t'.mStatus = .U
  · rw [TaskObj.stopTask_of_idle idle]
    intro child member
    exact ⟨member, sane.childless found (status ▸ idle) child member⟩
  · have calls : hostCalls i reaped t'.stopTask.calls = (i, .kill t'.mPid) ::
        (hostCalls i reaped t'.closeReadIo.2 ++ hostCalls i reaped [.waitpid t'.mPid]) := by
      rw [TaskObj.stopTask_calls idle, ← hostCalls_append]
      rfl
    have killed : ledger.next children (i, .kill t'.mPid) = children := rfl
    rw [calls, StepMachine.run_cons, StepMachine.run_append, killed,
      hostCalls_inert reaped t'.closeReadIo_inert]
    intro child member
    rcases List.mem_filter.mp member with ⟨old, differs⟩
    constructor
    · exact old
    · intro same
      rcases sane.own child old with ⟨positive, t'', found', _, own⟩
      rw [same, found] at found'
      obtain rfl := Option.some.inj found'
      have named : t'.mPid ≠ -1 := by omega
      rw [if_neg named, stored] at differs
      exact of_decide_eq_true differs own.symm

theorem set_same (found : tasks[i]? = some t) : tasks.set i t = tasks := by
  rcases List.getElem?_eq_some_iff.mp found with ⟨bound, rfl⟩
  exact List.set_getElem_self bound

/-- What an operation on task `i` does to the children and to what is recorded: the lookups stay
right exactly when `clear` holds. -/
def OpKeeps (tasks : List TaskObj) (children : List (Nat × Int)) (tasks' : List TaskObj)
    (children' : List (Nat × Int)) (clear : Prop) : Prop :=
  SaneTasks tasks' children' ∧ (First tasks children → (First tasks' children' ↔ clear))

def Unkept (tasks : List TaskObj) (i : Nat) (pid : Int) : Prop :=
  0 < pid → ∀ k < i, ∀ t, tasks[k]? = some t → t.mPid ≠ pid

theorem startTask_keeps (sane : SaneTasks tasks children) (found : tasks[i]? = some t)
    (childless : ∀ child ∈ children, child.1 ≠ i) (idle : t.mStatus = .U) {pid reaped : Int}
    (range : IsPid pid) (lawful : ledger.AllSteps ForkLawful children
      (hostCalls i reaped (t.startTask pid).calls)) :
    OpKeeps tasks children (tasks.set i (t.startTask pid).task)
      (ledger.run children (hostCalls i reaped (t.startTask pid).calls)) (Unkept tasks i pid) := by
  rw [TaskObj.startTask_of_idle idle] at lawful ⊢
  exact sane_fork sane found childless range lawful.1 (by simp) rfl

theorem stopTask_keeps (sane : SaneTasks tasks children) (found : tasks[i]? = some t)
    (reaped : Int) :
    OpKeeps tasks children (tasks.set i t.stopTask.task)
      (ledger.run children (hostCalls i reaped t.stopTask.calls)) True := by
  rcases sane_fewer sane found t.stopTask_mPid (stopTask_left sane found rfl rfl reaped) with
    ⟨left, first⟩
  exact ⟨left, fun before => iff_true_intro (first before)⟩

theorem restartTask_keeps (sane : SaneTasks tasks children) (found : tasks[i]? = some t)
    {pid reaped : Int} (range : IsPid pid) (lawful : ledger.AllSteps ForkLawful children
      (hostCalls i reaped (t.restartTask pid).calls)) :
    OpKeeps tasks children (tasks.set i (t.restartTask pid).task)
      (ledger.run children (hostCalls i reaped (t.restartTask pid).calls))
      (Unkept tasks i pid) := by
  rcases List.getElem?_eq_some_iff.mp found with ⟨bound, _⟩
  have left := stopTask_left sane found rfl rfl reaped
  rcases stopTask_keeps sane found reaped with ⟨sane', first⟩
  have calls : hostCalls i reaped (t.restartTask pid).calls =
      hostCalls i reaped t.stopTask.calls ++
        hostCalls i reaped (t.stopTask.task.startTask pid).calls := hostCalls_append ..
  rw [calls, StepMachine.allSteps_append] at lawful
  have started := startTask_keeps (t := t.stopTask.task) sane' (List.getElem?_set_self bound)
    (fun child member => (left child member).2) t.stopTask_idle range lawful.2
  have same : Unkept (tasks.set i t.stopTask.task) i pid ↔ Unkept tasks i pid := by
    refine imp_congr_right fun _ => forall₂_congr fun k lower => ?_
    rw [List.getElem?_set_ne (by omega)]
  rw [List.set_set] at started
  rw [calls, StepMachine.run_append]
  constructor
  · exact started.1
  · intro before
    exact (started.2 ((first before).mpr trivial)).trans same

theorem clearTask_keeps (sane : SaneTasks tasks children) (found : tasks[i]? = some t)
    (reaped : Int) :
    OpKeeps tasks children (tasks.set i t.clearTask.task)
      (ledger.run children (hostCalls i reaped t.clearTask.calls)) True := by
  have detaching := t.stopTaskClient_task
  have status : t.stopTaskClient.task.mStatus = t.mStatus := by rw [detaching]
  have stored : t.stopTaskClient.task.mPid = t.mPid := by rw [detaching]
  rcases clearTask_calls t with ⟨destroyed, inert, calls, _, stored'⟩
  have same : t.clearTask.task.mPid = t.mPid :=
    stored'.trans ((TaskObj.stopTask_mPid _).trans stored)
  have ran : ledger.run children (hostCalls i reaped t.clearTask.calls) =
      ledger.run children (hostCalls i reaped t.stopTaskClient.task.stopTask.calls) := by
    rw [calls, hostCalls_append, hostCalls_append, StepMachine.run_append, StepMachine.run_append,
      hostCalls_inert reaped t.stopTaskClient_inert, hostCalls_inert reaped inert]
  rw [ran]
  rcases sane_fewer sane found same (stopTask_left sane found status stored reaped) with
    ⟨left, first⟩
  exact ⟨left, fun before => iff_true_intro (first before)⟩

theorem apply_keeps (sane : SaneTasks tasks children) (found : tasks[i]? = some t) (op : TaskOp)
    {reaped : Int} (range : ∀ pid ∈ op.forks, IsPid pid) (lawful : ledger.AllSteps ForkLawful
      children (hostCalls i reaped (op.apply t).calls)) :
    OpKeeps tasks children (tasks.set i (op.apply t).task)
      (ledger.run children (hostCalls i reaped (op.apply t).calls))
      ((op.stops = true ∨ t.mStatus = .U) → ∀ pid ∈ op.forks, Unkept tasks i pid) := by
  have forking {pid : Int} {clear : Prop} (runs : clear ↔ True) :
      (clear → ∀ p ∈ some pid, Unkept tasks i p) ↔ Unkept tasks i pid := by
    simp [runs]
  cases op with
  | start pid =>
      by_cases idle : t.mStatus = .U
      · have started := startTask_keeps sane found (sane.childless found idle) idle
          (range pid rfl) lawful
        refine ⟨started.1, fun first => (started.2 first).trans (forking ?_).symm⟩
        simp [idle]
      · have stays : (TaskOp.start pid).apply t = ⟨t, [], -1⟩ :=
          TaskObj.startTask_of_active idle pid
        rw [stays, set_same found]
        refine ⟨sane, fun first => iff_of_true first ?_⟩
        intro runs
        rcases runs with stops | unknown
        · cases stops
        · exact absurd unknown idle
  | stop =>
      have stopped := stopTask_keeps sane found reaped
      exact ⟨stopped.1, fun first => (stopped.2 first).trans (by simp [TaskOp.forks])⟩
  | restart pid =>
      have restarted := restartTask_keeps sane found (range pid rfl) lawful
      exact ⟨restarted.1, fun first =>
        (restarted.2 first).trans (forking (by simp [TaskOp.stops])).symm⟩
  | timeout pid =>
      have restarted := restartTask_keeps sane found (range pid rfl) lawful
      exact ⟨restarted.1, fun first =>
        (restarted.2 first).trans (forking (by simp [TaskOp.stops])).symm⟩
  | clear =>
      have cleared := clearTask_keeps sane found reaped
      exact ⟨cleared.1, fun first => (cleared.2 first).trans (by simp [TaskOp.forks])⟩

end Lists

structure SaneHost (h : Host) : Prop where
  sane : SaneTasks h.daemon.registry.taskList h.children
  made : ∀ t ∈ h.daemon.registry.taskList, ∀ a, t.mClient = some a → a < h.daemon.created

section Steps

variable {h : Host}

theorem apply_mClient (t : TaskObj) (op : TaskOp) {a : Nat}
    (kept : (op.apply t).task.mClient = some a) : t.mClient = some a := by
  cases op with
  | start pid => exact (t.startTask_mClient pid).symm.trans kept
  | stop => exact t.stopTask_mClient.symm.trans kept
  | restart pid => exact (t.restartTask_mClient pid).symm.trans kept
  | timeout pid => exact (t.restartTask_mClient pid).symm.trans kept
  | clear =>
      rw [TaskOp.apply, t.clearTask_mClient] at kept
      cases kept

theorem op_step (sane : SaneHost h) (first : First h.daemon.registry.taskList h.children) {i : Nat}
    {op : TaskOp} {reaped : Int} (lawful : HostLawful h (.op i op reaped)) :
    SaneHost (hosts.next h (.op i op reaped)) ∧
      (First (hosts.next h (.op i op reaped)).daemon.registry.taskList
        (hosts.next h (.op i op reaped)).children ↔ NoneKept h (.op i op reaped)) := by
  cases found : h.daemon.registry.taskList[i]? with
  | none =>
      have stays : hosts.next h (.op i op reaped) = h := by
        simp [StepMachine.next, hosts, found]
      rw [stays]
      refine ⟨sane, iff_of_true first ?_⟩
      intro t found'
      rw [found] at found'
      cases found'
  | some t =>
      have runs : hosts.next h (.op i op reaped) = ⟨h.daemon.setTask i (op.apply t).task,
          ledger.run h.children (hostCalls i reaped (op.apply t).calls)⟩ := by
        simp [StepMachine.next, hosts, found]
      have keeps := apply_keeps sane.sane found op lawful.1 (lawful.2 t found)
      rw [runs]
      refine ⟨⟨keeps.1, ?_⟩, (keeps.2 first).trans ?_⟩
      · intro t' member a attached
        rcases List.mem_or_eq_of_mem_set member with old | rfl
        · exact sane.made t' old a attached
        · exact sane.made t (List.mem_of_getElem? found) a (apply_mClient t op attached)
      · constructor
        · intro unkept t' found'
          rw [found] at found'
          obtain rfl := Option.some.inj found'
          exact unkept
        · intro unkept
          exact unkept t found

theorem SaneHost.unmade (sane : SaneHost h) {t : TaskObj}
    (member : t ∈ h.daemon.registry.taskList) : t.mClient ≠ some h.daemon.created := by
  intro attached
  exact absurd (sane.made t member _ attached) (lt_irrefl _)

theorem connect_stranger (sane : SaneHost h)
    (first : First h.daemon.registry.taskList h.children) {pid : Int}
    (stranger : h.daemon.ownerOf pid = none) (fd : Int) (env : ConnectEnv) :
    SaneHost ⟨(h.daemon.recvClientConnect pid fd env).1, h.children⟩ ∧
      First (h.daemon.recvClientConnect pid fd env).1.registry.taskList h.children ∧
      (AttachesOwn h (.connect pid fd env) ↔ NoneKept h (.connect pid fd env)) := by
  rcases Daemon.recvClientConnect_stranger stranger fd env with ⟨same, created⟩
  have unrecorded : ∀ t ∈ h.daemon.registry.taskList, t.mPid ≠ pid := by
    intro t member
    exact of_decide_eq_false (List.findIdx?_eq_none_iff.mp stranger t member)
  have sane' : SaneHost ⟨(h.daemon.recvClientConnect pid fd env).1, h.children⟩ := by
    constructor
    · rw [same]
      exact sane.sane
    · rw [same, created]
      intro t member a attached
      exact (sane.made t member a attached).trans (Nat.lt_succ_self _)
  have none_attached : AttachesOwn h (.connect pid fd env) := by
    intro i t found attached
    have old : t ∈ (h.daemon.recvClientConnect pid fd env).1.registry.taskList :=
      List.mem_of_getElem? found
    rw [same] at old
    exact absurd attached (sane.unmade old)
  rw [same]
  exact ⟨sane', first, iff_of_true none_attached (.inr (.inr unrecorded))⟩

section Owned

variable {pid : Int} {i : Nat} {t : TaskObj}

theorem connect_owned (sane : SaneHost h) (first : First h.daemon.registry.taskList h.children)
    (owner : h.daemon.ownerOf pid = some i) (found : h.daemon.registry.taskList[i]? = some t)
    (fd : Int) (env : ConnectEnv) :
    SaneHost ⟨(h.daemon.recvClientConnect pid fd env).1, h.children⟩ ∧
      First (h.daemon.recvClientConnect pid fd env).1.registry.taskList h.children := by
  rcases Daemon.recvClientConnect_owned owner found fd env with ⟨placed, created⟩
  have same : recorded (h.daemon.registry.taskList.set i
      { t with mClient := h.daemon.attached env }) = recorded h.daemon.registry.taskList :=
    recorded_set_same found rfl
  rw [placed]
  constructor
  · constructor
    · rw [placed]
      exact sane_same sane.sane found rfl rfl
    · rw [placed, created]
      intro t' member a attached
      rcases List.mem_or_eq_of_mem_set member with old | rfl
      · exact (sane.made t' old a attached).trans (Nat.lt_succ_self _)
      · rw [Daemon.attached] at attached
        split at attached
        · cases attached
        · obtain rfl := Option.some.inj attached
          exact Nat.lt_succ_self _
  · intro child member
    rw [same]
    exact first child member

/-- A client that connects with the pid of a task is that task's own child exactly when the task has
not kept the pid from an earlier process. -/
theorem connect_owned_attaches (sane : SaneHost h)
    (first : First h.daemon.registry.taskList h.children)
    (owner : h.daemon.ownerOf pid = some i) (found : h.daemon.registry.taskList[i]? = some t)
    (holder : t.mPid = pid) (fd : Int) (env : ConnectEnv) :
    AttachesOwn h (.connect pid fd env) ↔ NoneKept h (.connect pid fd env) := by
  have placed := (Daemon.recvClientConnect_owned owner found fd env).1
  rcases List.getElem?_eq_some_iff.mp found with ⟨bound, _⟩
  constructor
  · intro own
    by_cases throws : env.Throws
    · exact .inl throws
    · have here : (hosts.next h (.connect pid fd env)).daemon.registry.taskList[i]? =
          some { t with mClient := h.daemon.attached env } := by
        calc
          _ = (h.daemon.recvClientConnect pid fd env).1.registry.taskList[i]? := rfl
          _ = (h.daemon.registry.taskList.set i
                { t with mClient := h.daemon.attached env })[i]? := by rw [placed]
          _ = some { t with mClient := h.daemon.attached env } := List.getElem?_set_self bound
      exact .inr (.inl ⟨i, own i _ here (if_neg throws)⟩)
  · intro unkept j t' found' attached
    have there : (h.daemon.registry.taskList.set i
        { t with mClient := h.daemon.attached env })[j]? = some t' := by
      rw [← placed]
      exact found'
    by_cases same : i = j
    · subst same
      rw [List.getElem?_set_self bound] at there
      obtain rfl := Option.some.inj there
      rcases unkept with throws | ⟨k, member⟩ | unrecorded
      · have unattached : h.daemon.attached env = none := if_pos throws
        rw [unattached] at attached
        cases attached
      · have looked := first (k, pid) member
        rw [recorded, List.findIdx?_map] at looked
        have both : some k = some i := looked.symm.trans owner
        obtain rfl := Option.some.inj both
        exact member
      · exact absurd holder (unrecorded t (List.mem_of_getElem? found))
    · rw [List.getElem?_set_ne same] at there
      exact absurd attached (sane.unmade (List.mem_of_getElem? there))

end Owned

theorem connect_step (sane : SaneHost h) (first : First h.daemon.registry.taskList h.children)
    (pid fd : Int) (env : ConnectEnv) :
    SaneHost (hosts.next h (.connect pid fd env)) ∧
      First (hosts.next h (.connect pid fd env)).daemon.registry.taskList
        (hosts.next h (.connect pid fd env)).children ∧
      (AttachesOwn h (.connect pid fd env) ↔ NoneKept h (.connect pid fd env)) := by
  cases owner : h.daemon.ownerOf pid with
  | none => exact connect_stranger sane first owner fd env
  | some i =>
      rcases FirstIndex.findIdx?_eq_some_iff.mp owner with ⟨⟨t, found, holds⟩, _⟩
      rcases connect_owned sane first owner found fd env with ⟨sane', first'⟩
      have holder : t.mPid = pid := of_decide_eq_true holds
      exact ⟨sane', first', connect_owned_attaches sane first owner found holder fd env⟩

theorem host_step (sane : SaneHost h) (first : First h.daemon.registry.taskList h.children)
    {e : HostEvent} (lawful : HostLawful h e) :
    SaneHost (hosts.next h e) ∧
      (LooksUp (hosts.next h e) ∧ AttachesOwn h e ↔ NoneKept h e) := by
  cases e with
  | op i op reaped =>
      rcases op_step sane first lawful with ⟨sane', same⟩
      have looks : First (hosts.next h (.op i op reaped)).daemon.registry.taskList
          (hosts.next h (.op i op reaped)).children ↔ LooksUp (hosts.next h (.op i op reaped)) :=
        first_iff sane'.sane
      refine ⟨sane', (and_iff_left trivial).trans ?_⟩
      rw [← looks, same]
  | connect pid fd env =>
      rcases connect_step sane first pid fd env with ⟨sane', first', own⟩
      have looks : LooksUp (hosts.next h (.connect pid fd env)) := (first_iff sane'.sane).mp first'
      exact ⟨sane', (and_iff_right looks).trans own⟩

theorem host_run (sane : SaneHost h) (first : First h.daemon.registry.taskList h.children)
    {es : List HostEvent} (lawful : hosts.AllSteps HostLawful h es) :
    hosts.AllSteps (fun h e => LooksUp (hosts.next h e) ∧ AttachesOwn h e) h es ↔
      hosts.AllSteps NoneKept h es := by
  induction es generalizing h with
  | nil => exact Iff.rfl
  | cons e es ih =>
      rcases host_step sane first lawful.1 with ⟨sane', same⟩
      rw [StepMachine.allSteps_cons, StepMachine.allSteps_cons, ← same]
      apply and_congr_right
      intro now
      exact ih sane' ((first_iff sane'.sane).mpr now.1) lawful.2

end Steps

/-- From tasks without connections and a daemon without children: after every step each child's pid
is looked up to the task that forked it, and clients get to be connections of their own tasks
only, exactly when no pid that is forked or connects is one that a task has kept from an
earlier process and would be found under. -/
theorem looks_up_iff {d : Daemon}
    (unused : ∀ t ∈ d.registry.taskList, IsPid t.mPid ∧ t.mClient = none) {es : List HostEvent}
    (lawful : hosts.AllSteps HostLawful ⟨d, []⟩ es) :
    hosts.AllSteps (fun h e => LooksUp (hosts.next h e) ∧ AttachesOwn h e) ⟨d, []⟩ es ↔
      hosts.AllSteps NoneKept ⟨d, []⟩ es := by
  have sane : SaneHost ⟨d, []⟩ := by
    refine ⟨⟨?_, fun t member => (unused t member).1⟩, ?_⟩
    · intro child member
      cases member
    · intro t member a attached
      rw [(unused t member).2] at attached
      cases attached
  apply host_run sane _ lawful
  intro child member
  cases member

def twoTasks : Daemon :=
  ⟨⟨[⟨text "cat", text "/bin/cat", [], 5, 0, some (.create 3 5), .U, none, none, 0⟩,
    ⟨text "dog", text "/bin/dog", [], 5, 0, some (.create 3 5), .U, none, none, 0⟩], 2⟩, [], [],
    0, true⟩

def freshPids : List HostEvent :=
  [.op 0 (.start 40) 0, .op 0 .stop 0, .op 1 (.start 41) 0]

def reusedPid : List HostEvent :=
  [.op 0 (.start 40) 0, .op 0 .stop 0, .op 1 (.start 40) 0]

theorem looks_up_iff_fresh :
    hosts.AllSteps (fun h e => LooksUp (hosts.next h e) ∧ AttachesOwn h e) ⟨twoTasks, []⟩
        freshPids ↔
      hosts.AllSteps NoneKept ⟨twoTasks, []⟩ freshPids := by
  apply looks_up_iff
  · decide
  · refine ⟨⟨by decide, ?_⟩, ⟨by decide, ?_⟩, ⟨by decide, ?_⟩, trivial⟩
    all_goals
      intro t found
      obtain rfl := Option.some.inj found
      decide

/-- Pid 40 is held by the second task, and a lookup finds the first one, which is stopped. -/
theorem reused_pid_finds_stopped :
    hosts.AllSteps HostLawful ⟨twoTasks, []⟩ reusedPid ∧
      (1, 40) ∈ (hosts.run ⟨twoTasks, []⟩ reusedPid).children ∧
      selectTask (hosts.run ⟨twoTasks, []⟩ reusedPid).daemon.registry.taskList (UInt32.ofInt 40)
        (.zero 32 nameSize_pos) = some 0 := by
  refine ⟨⟨⟨by decide, ?_⟩, ⟨by decide, ?_⟩, ⟨by decide, ?_⟩, trivial⟩, by decide, by decide⟩
  all_goals
    intro t found
    obtain rfl := Option.some.inj found
    decide

end TaskMonitor
