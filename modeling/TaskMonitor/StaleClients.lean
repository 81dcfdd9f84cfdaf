import TaskMonitor.Connections

/-! The connection that a task holds, over runs of the task's methods. -/

namespace TaskMonitor

open CText

inductive TaskMethod where
  | startTask (pid : Int)
  | stopTask
  | restartTask (pid : Int)
  | timeout (pid : Int)
  | startTaskClient (fd : Int) (env : ConnectEnv)
  | stopTaskClient

def TaskMethod.Kills : TaskMethod → Prop
  | stopTask | restartTask _ | timeout _ => True
  | _ => False

def ran (d : Daemon) (i : Nat) (r : TaskResult) : Daemon × List DaemonOut :=
  (d.setTask i r.task, r.calls.map (.task i))

def methods (i : Nat) : StepMachine Daemon TaskMethod DaemonOut where
  step d m :=
    match d.registry.taskList[i]? with
    | none => (d, [])
    | some t =>
        match m with
        | .startTask pid => ran d i (t.startTask pid)
        | .stopTask => ran d i t.stopTask
        | .restartTask pid => ran d i (t.restartTask pid)
        | .timeout pid => ran d i (taskTimeoutCb t pid)
        | .startTaskClient fd env => d.startTaskClient i t fd env
        | .stopTaskClient => d.stopTaskClient i t

/-- The connection of task `i` is one of its process: the task is running, and the connection
object has its pid. -/
def OwnClient (i : Nat) (d : Daemon) : Prop :=
  ∀ t a, d.registry.taskList[i]? = some t → t.mClient = some a →
    t.mStatus ≠ .U ∧ ∃ c, d.findClient a = some c ∧ c.mPid = t.mPid

/-- A method that kills a process detaches the task from its connection and deletes that. -/
def Released (i : Nat) (d : Daemon) (m : TaskMethod) : Prop :=
  m.Kills → ∀ t a, d.registry.taskList[i]? = some t → t.mStatus ≠ .U → t.mClient = some a →
    (∀ t', ((methods i).next d m).registry.taskList[i]? = some t' → t'.mClient ≠ some a) ∧
      ((methods i).next d m).findClient a = none

/-- A running task is not killed while it has a connection, and only a running task gets one. -/
def KeptApart (i : Nat) (d : Daemon) : TaskMethod → Prop
  | .stopTask | .restartTask _ | .timeout _ =>
      ∀ t, d.registry.taskList[i]? = some t → t.mStatus = .U ∨ t.mClient = none
  | .startTaskClient _ env =>
      ∀ t, d.registry.taskList[i]? = some t → t.mStatus ≠ .U ∨ env.Throws
  | _ => True

section Steps

variable {i : Nat} {d : Daemon} {t : TaskObj}

theorem ownClient_set {d' : Daemon} {t' : TaskObj} (placed : d'.registry.taskList[i]? = some t')
    (own : ∀ a, t'.mClient = some a →
      t'.mStatus ≠ .U ∧ ∃ c, d'.findClient a = some c ∧ c.mPid = t'.mPid) : OwnClient i d' := by
  intro t a found attached
  rw [placed] at found
  obtain rfl := Option.some.inj found
  exact own a attached

theorem ownClient_detached {d' : Daemon} {t' : TaskObj}
    (placed : d'.registry.taskList[i]? = some t') (detached : t'.mClient = none) :
    OwnClient i d' := by
  apply ownClient_set placed
  intro a attached
  rw [detached] at attached
  cases attached

theorem OwnClient.detached (own : OwnClient i d) (found : d.registry.taskList[i]? = some t)
    (idle : t.mStatus = .U) : t.mClient = none := by
  cases attached : t.mClient with
  | none => rfl
  | some a => exact absurd idle (own t a found attached).1

theorem killing_iff (own : OwnClient i d) (found : d.registry.taskList[i]? = some t)
    {m : TaskMethod} {r : TaskResult} (kills : m.Kills)
    (runs : (methods i).next d m = d.setTask i r.task) (same : r.task.mClient = t.mClient) :
    OwnClient i ((methods i).next d m) ∧ Released i d m ↔
      ∀ t, d.registry.taskList[i]? = some t → t.mStatus = .U ∨ t.mClient = none := by
  have placed : ((methods i).next d m).registry.taskList[i]? = some r.task := by
    rw [runs]
    exact Daemon.getElem?_setTask found _
  constructor
  · rintro ⟨_, released⟩ t' found'
    rw [found] at found'
    obtain rfl := Option.some.inj found'
    by_cases idle : t.mStatus = .U
    · exact .inl idle
    · right
      cases attached : t.mClient with
      | none => rfl
      | some a =>
          have gone := (released kills t a found idle attached).1 r.task placed
          exact absurd (same.trans attached) gone
  · intro apart
    have detached : t.mClient = none := by
      rcases apart t found with idle | detached
      · exact own.detached found idle
      · exact detached
    constructor
    · exact ownClient_detached placed (same.trans detached)
    · intro _ t' a found' _ attached
      rw [found] at found'
      obtain rfl := Option.some.inj found'
      rw [detached] at attached
      cases attached

theorem methods_next (found : d.registry.taskList[i]? = some t) (m : TaskMethod) :
    (methods i).next d m =
      match m with
      | .startTask pid => d.setTask i (t.startTask pid).task
      | .stopTask => d.setTask i t.stopTask.task
      | .restartTask pid => d.setTask i (t.restartTask pid).task
      | .timeout pid => d.setTask i (t.restartTask pid).task
      | .startTaskClient fd env => (d.startTaskClient i t fd env).1
      | .stopTaskClient => (d.stopTaskClient i t).1 := by
  cases m <;> simp [StepMachine.next, methods, found, ran, taskTimeoutCb]

theorem startTask_own (own : OwnClient i d) (found : d.registry.taskList[i]? = some t)
    (pid : Int) : OwnClient i (d.setTask i (t.startTask pid).task) := by
  have placed := Daemon.getElem?_setTask found (t.startTask pid).task
  by_cases idle : t.mStatus = .U
  · have detached : (t.startTask pid).task.mClient = none :=
      (t.startTask_mClient pid).trans (own.detached found idle)
    exact ownClient_detached placed detached
  · rw [TaskObj.startTask_of_active idle] at placed ⊢
    apply ownClient_set placed
    intro a attached
    exact own t a found attached

theorem startTaskClient_iff (found : d.registry.taskList[i]? = some t) (fd : Int)
    (env : ConnectEnv) :
    OwnClient i (d.startTaskClient i t fd env).1 ↔ t.mStatus ≠ .U ∨ env.Throws := by
  have placed := (Daemon.stopTaskClient_keeps found).2.1
  by_cases throws : env.Throws
  · have detached : t.stopTaskClient.task.mClient = none := by rw [t.stopTaskClient_task]
    rw [Daemon.startTaskClient_of_throws throws]
    exact iff_of_true (ownClient_detached placed detached) (.inr throws)
  · rcases ConnectEnv.not_throws throws with ⟨watched, uninit, served⟩
    have started := Daemon.startTaskClient_of_works watched served d i t fd
    have placed' : (d.startTaskClient i t fd env).1.registry.taskList[i]? =
        some { t with mClient := some d.created } := by
      rw [started]
      exact Daemon.getElem?_setTask placed _
    have object : (d.startTaskClient i t fd env).1.findClient d.created =
        some (.fresh d.created fd t.mPid uninit) := by
      rw [started]
      exact Daemon.findClient_setClient_self _ _ _
    constructor
    · intro own
      exact .inl (own _ _ placed' rfl).1
    · intro apart
      apply ownClient_set placed'
      intro a attached
      obtain rfl := Option.some.inj attached
      exact ⟨apart.resolve_right throws, _, object, rfl⟩

theorem methods_iff (own : OwnClient i d) (m : TaskMethod) :
    OwnClient i ((methods i).next d m) ∧ Released i d m ↔ KeptApart i d m := by
  cases found : d.registry.taskList[i]? with
  | none =>
      have stays : (methods i).next d m = d := by simp [StepMachine.next, methods, found]
      have released : Released i d m := by
        intro _ t a found'
        rw [found] at found'
        cases found'
      rw [stays]
      apply iff_of_true ⟨own, released⟩
      cases m <;> simp [KeptApart, found]
  | some t =>
      have next := methods_next found m
      have peaceful (quiet : ¬ m.Kills) : Released i d m := fun kills => absurd kills quiet
      cases m with
      | stopTask => exact killing_iff own found trivial next t.stopTask_mClient
      | restartTask pid => exact killing_iff own found trivial next (t.restartTask_mClient pid)
      | timeout pid => exact killing_iff own found trivial next (t.restartTask_mClient pid)
      | startTask pid =>
          rw [next]
          exact iff_of_true ⟨startTask_own own found pid, peaceful id⟩ trivial
      | stopTaskClient =>
          have placed := (Daemon.stopTaskClient_keeps found).2.1
          have detached : t.stopTaskClient.task.mClient = none := by rw [t.stopTaskClient_task]
          rw [next]
          exact iff_of_true ⟨ownClient_detached placed detached, peaceful id⟩ trivial
      | startTaskClient fd env =>
          rw [next]
          apply (and_iff_left (peaceful id)).trans
          rw [startTaskClient_iff found]
          constructor
          · intro apart t' found'
            rw [found] at found'
            obtain rfl := Option.some.inj found'
            exact apart
          · intro apart
            exact apart t found

end Steps

/-- From a task without a connection: after every method the connection it has is one of its
running process, and each killed process's connection is gone, exactly when no method kills a
process that has a connection and no connection is given to a task that is not running. -/
theorem own_client_iff {i : Nat} {d : Daemon} {t : TaskObj}
    (found : d.registry.taskList[i]? = some t) (detached : t.mClient = none)
    (ms : List TaskMethod) :
    (methods i).AllSteps (fun d m => OwnClient i ((methods i).next d m) ∧ Released i d m) d ms ↔
      (methods i).AllSteps (KeptApart i) d ms := by
  apply (methods i).allSteps_congr (OwnClient i) (fun _ m own => methods_iff own m)
    (fun _ _ _ both => both.1) (ownClient_detached found detached)

def quietDaemon : Daemon :=
  ⟨⟨[⟨text "cat", text "/bin/cat", [], 5, 0, some (.create 3 5), .U, none, none, 0⟩], 1⟩, [], [],
    0, true⟩

def plainConnect : ConnectEnv := ⟨⟨0, 0, none, none, 0⟩, 0, some fun _ => none⟩

theorem own_client_iff_detached :
    (methods 0).AllSteps (fun d m => OwnClient 0 ((methods 0).next d m) ∧ Released 0 d m)
        quietDaemon [.startTask 40, .startTaskClient 7 plainConnect, .stopTaskClient, .stopTask] ↔
      (methods 0).AllSteps (KeptApart 0) quietDaemon
        [.startTask 40, .startTaskClient 7 plainConnect, .stopTaskClient, .stopTask] :=
  own_client_iff rfl rfl _

/-- A task with a connection is restarted: it keeps the connection of the killed process. -/
theorem restart_keeps_client :
    ¬ OwnClient 0 ((methods 0).run quietDaemon
      [.startTask 40, .startTaskClient 7 plainConnect, .restartTask 41]) := by
  intro own
  rcases (own _ 0 rfl rfl).2 with ⟨c, found, same⟩
  obtain rfl := Option.some.inj found
  revert same
  decide

end TaskMonitor
