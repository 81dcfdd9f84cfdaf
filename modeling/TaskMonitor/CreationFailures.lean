import TaskMonitor.StartUp
import TaskMonitor.Connections

/-! What becomes of tasks and connections whose objects cannot be created. -/

namespace TaskMonitor

/-- A call that kills a process or destroys an object. A constructor that throws has made no
process and no object of its own. -/
def Foreign : SysCall → Prop
  | .kill _ | .deleteClient _ | .deleteServer | .watchDestroy _ => True
  | _ => False

def OwnOnly (calls : List SysCall) : Prop := ∀ call ∈ calls, ¬ Foreign call

namespace TaskObj

theorem clearTask_ownOnly_iff {t : TaskObj} (untimed : t.mTimer = none) :
    OwnOnly t.clearTask.calls ↔ t.mStatus = .U ∧ t.mClient = none := by
  cases client : t.mClient with
  | some address =>
      have deleted : .deleteClient address ∈ t.clearTask.calls := by
        simp [clearTask, stopTaskClient, client]
      refine iff_of_false ?_ (by simp)
      exact fun own => own _ deleted trivial
  | none =>
      have detached : t.stopTaskClient = ⟨t, [], 0⟩ := by rw [stopTaskClient, client]
      by_cases idle : t.mStatus = .U
      · have silent : t.clearTask.calls = [] := by simp [clearTask, detached, idle, untimed]
        refine iff_of_true ?_ ⟨idle, rfl⟩
        rw [silent]
        exact fun call member => absurd member List.not_mem_nil
      · have killed : .kill t.mPid ∈ t.clearTask.calls := by
          simp [clearTask, detached, idle, stopTask_calls idle]
        refine iff_of_false ?_ (fun quiet => idle quiet.1)
        exact fun own => own _ killed trivial

end TaskObj

def constructorCalls (task : ConfiguredTask) : List SysCall :=
  (TaskObj.create task.2.memory task.1.name.text task.1.path.text task.1.param.text
    (UInt32.ofInt (task.1.heartbeat.num.tdiv task.1.heartbeat.den)) task.2.random
    task.2.timerOk).2

theorem constructorCalls_ownOnly_iff {task : ConfiguredTask} (fails : task.2.timerOk = false) :
    OwnOnly (constructorCalls task) ↔
      task.2.memory.mStatus = .U ∧ task.2.memory.mClient = none := by
  rw [constructorCalls, TaskObj.create, fails]
  exact TaskObj.clearTask_ownOnly_iff rfl

namespace TaskObjClient

theorem create_ownOnly_iff (self : Nat) (fd pid : Int) {env : ConnectEnv} (throws : env.Throws) :
    OwnOnly (create self fd pid env).2 ↔
      env.memory.msgServer = none ∧ env.memory.mReadIo = none := by
  have calls : (create self fd pid env).2 =
      openingCalls fd env.memory ++ [.watchCreate fd self] := by
    rw [create, startTaskClient]
    by_cases watched : env.watchRet = 0
    · have unserved : env.serverMemory = none := throws.resolve_left (not_not.mpr watched)
      simp [watched, unserved, openingCalls, stopTaskClient]
    · simp [watched, openingCalls, stopTaskClient]
  rw [calls, OwnOnly, openingCalls, stopTaskClient]
  cases env.memory.msgServer with
  | some server => simp [Foreign]
  | none =>
      cases env.memory.mReadIo with
      | some io => simp [Foreign]
      | none => by_cases positive : 0 < fd <;> simp [Foreign, positive]

end TaskObjClient

structure StartContained (tasks : List ConfiguredTask) : Prop where
  caught : ∀ task ∈ tasks, ∀ w, (taskParamCb w task.1 task.2).2 = true
  returned : (taskCoreInit true tasks).ret = some 0
  others : Supervised ((tasks.filter (·.2.timerOk)).map Prod.fst) (taskCoreInit true tasks).world
  ownOnly : ∀ task ∈ tasks, task.2.timerOk = false → OwnOnly (constructorCalls task)

theorem startContained_iff (tasks : List ConfiguredTask) :
    StartContained tasks ↔
      ∀ task ∈ tasks, task.2.timerOk = true ∧ task.2.memory.mStatus = .U := by
  have every (works : ∀ task ∈ tasks, task.2.timerOk = true) :
      tasks.filter (·.2.timerOk) = tasks := List.filter_eq_self.mpr works
  constructor
  · intro contained
    have works : ∀ task ∈ tasks, task.2.timerOk = true := by
      intro task member
      by_contra fails
      have thrown := (taskParamCb_throws (Bool.eq_false_iff.mpr fails) emptyWorld).1
      rw [contained.caught task member emptyWorld] at thrown
      cases thrown
    have others := contained.others
    rw [every works] at others
    intro task member
    exact ⟨works task member, (supervised_iff works).mp others task member⟩
  · intro sound
    have works : ∀ task ∈ tasks, task.2.timerOk = true := fun task member => (sound task member).1
    constructor
    · intro task member w
      rw [taskParamCb_works (works task member)]
    · exact (taskCoreInit_returns_iff tasks).mpr works
    · rw [every works]
      exact (supervised_iff works).mpr fun task member => (sound task member).2
    · intro task member fails
      rw [works task member] at fails
      cases fails

namespace Daemon

/-- `recv_client_connect` where there is no memory for the connection object: `new` throws. -/
def recvClientConnectNoMemory (d : Daemon) (pid : Int) : Daemon × List DaemonOut :=
  match d.registry.taskList.findIdx? fun obj => obj.getTaskPid = pid with
  | some i =>
      match d.registry.taskList[i]? with
      | none => (d, [])
      | some t =>
          let (d, gone) := d.stopTaskClient i t
          let (d, dead) := d.terminate
          (d, gone ++ dead)
  | none => d.terminate

def accept (d : Daemon) (pid fd : Int) : Option ConnectEnv → Daemon × List DaemonOut
  | none => d.recvClientConnectNoMemory pid
  | some env => d.recvClientConnect pid fd env

/-- What the accepting callback gets back, absent after an exception. The branch for -1 tests for a
null pointer, which `new` never returns. -/
def acceptRet (d : Daemon) (pid fd : Int) (made : Option ConnectEnv) : Option Int :=
  if (d.accept pid fd made).1.alive then some 0 else none

theorem stopTaskClient_alive (d : Daemon) (i : Nat) (t : TaskObj) :
    (d.stopTaskClient i t).1.alive = d.alive := by
  rw [stopTaskClient]
  cases t.mClient with
  | none => rfl
  | some address =>
      dsimp only
      rw [deleteClient]
      cases d.findClient address <;> rfl

theorem recvClientConnect_alive_iff {d : Daemon} (alive : d.alive = true) (pid fd : Int)
    (env : ConnectEnv) : (d.recvClientConnect pid fd env).1.alive = true ↔ ¬ env.Throws := by
  rw [recvClientConnect]
  cases owner : d.registry.taskList.findIdx? fun obj => obj.getTaskPid = pid with
  | some i =>
      rcases (FirstIndex.findIdx?_eq_some_iff.mp owner).1 with ⟨t, found, _⟩
      simp only [found]
      by_cases throws : env.Throws
      · rw [startTaskClient_of_throws throws]
        simp [throws]
      · rcases ConnectEnv.not_throws throws with ⟨watched, uninit, served⟩
        rw [startTaskClient_of_works watched served]
        refine iff_of_true ?_ throws
        exact (d.stopTaskClient_alive i t).trans alive
  | none =>
      by_cases throws : env.Throws
      · rcases newClient_of_throws throws d fd pid with ⟨unmade, left⟩
        generalize d.newClient fd pid env = made at unmade left
        rcases made with ⟨address, d', outs⟩
        dsimp only at unmade
        subst unmade
        simp [throws, terminate]
      · rcases ConnectEnv.not_throws throws with ⟨watched, uninit, served⟩
        rcases newClient_of_works watched served d fd pid with ⟨fresh, left⟩
        generalize d.newClient fd pid env = made at fresh left
        rcases made with ⟨address, d', outs⟩
        dsimp only at fresh left
        subst fresh left
        exact iff_of_true alive throws

theorem recvClientConnectNoMemory_alive (d : Daemon) (pid : Int) :
    (d.recvClientConnectNoMemory pid).1.alive = false := by
  rw [recvClientConnectNoMemory]
  cases owner : d.registry.taskList.findIdx? fun obj => obj.getTaskPid = pid with
  | some i =>
      rcases (FirstIndex.findIdx?_eq_some_iff.mp owner).1 with ⟨t, found, _⟩
      simp only [found]
      rfl
  | none => rfl

end Daemon

def CreationFails : Option ConnectEnv → Prop
  | none => True
  | some env => env.Throws

theorem accept_alive_iff {d : Daemon} (alive : d.alive = true) (pid fd : Int)
    (made : Option ConnectEnv) :
    (d.accept pid fd made).1.alive = true ↔ ¬ CreationFails made := by
  cases made with
  | none =>
      have dead := d.recvClientConnectNoMemory_alive pid
      simp [Daemon.accept, CreationFails, dead]
  | some env => exact Daemon.recvClientConnect_alive_iff alive pid fd env

structure AcceptContained (d : Daemon) (pid fd : Int) (made : Option ConnectEnv) : Prop where
  caught : (d.accept pid fd made).1.alive = true
  inner : ∀ env, made = some env → ∀ c self,
    (TaskObjClient.startTaskClient c self fd env).ret ≠ none
  refused : CreationFails made → d.acceptRet pid fd made = some (-1) ∧
    (∃ address, .client address (.close fd) ∈ (d.accept pid fd made).2) ∧
    (d.accept pid fd made).1.registry.taskList = d.registry.taskList ∧
    (d.accept pid fd made).1.cliList = d.cliList
  ownOnly : ∀ env, made = some env → env.Throws → ∀ self,
    OwnOnly (TaskObjClient.create self fd pid env).2

theorem acceptContained_iff {d : Daemon} (alive : d.alive = true) (pid fd : Int)
    (made : Option ConnectEnv) : AcceptContained d pid fd made ↔ ¬ CreationFails made := by
  have caught := accept_alive_iff alive pid fd made
  constructor
  · exact fun contained => caught.mp contained.caught
  · intro works
    constructor
    · exact caught.mpr works
    · intro env given c self
      subst given
      rcases ConnectEnv.not_throws works with ⟨watched, uninit, served⟩
      simp [TaskObjClient.startTaskClient, watched, served]
    · exact fun fails => absurd fails works
    · intro env given throws
      subst given
      exact absurd throws works

/-- Failures to create an object are contained only where there are none: a start-up needs all of
its timers, and memory that takes no new task for a running one, and a connection its object and
its server. The clean-up of a constructor that throws is its own only in memory that is clear. -/
theorem failures_contained_iff (tasks : List ConfiguredTask) {d : Daemon} (alive : d.alive = true)
    (pid fd : Int) (made : Option ConnectEnv) :
    (StartContained tasks ↔
        ∀ task ∈ tasks, task.2.timerOk = true ∧ task.2.memory.mStatus = .U) ∧
      (AcceptContained d pid fd made ↔ ¬ CreationFails made) ∧
      (∀ task : ConfiguredTask, task.2.timerOk = false → (OwnOnly (constructorCalls task) ↔
        task.2.memory.mStatus = .U ∧ task.2.memory.mClient = none)) ∧
      ∀ env : ConnectEnv, env.Throws → ∀ self,
        (OwnOnly (TaskObjClient.create self fd pid env).2 ↔
          env.memory.msgServer = none ∧ env.memory.mReadIo = none) := by
  refine ⟨startContained_iff tasks, acceptContained_iff alive pid fd made, ?_, ?_⟩
  · exact fun task fails => constructorCalls_ownOnly_iff fails
  · exact fun env throws self => TaskObjClient.create_ownOnly_iff self fd pid throws

def bareDaemon : Daemon := ⟨⟨[], 0⟩, [], [], 0, true⟩

def servedConnect : ConnectEnv := ⟨⟨0, 0, none, none, 0⟩, 0, some fun _ => none⟩

def unservedConnect : ConnectEnv := { servedConnect with serverMemory := none }

theorem failures_contained_iff_none :
    StartContained [catTask] ∧ AcceptContained bareDaemon 50 5 (some servedConnect) := by
  have alive : bareDaemon.alive = true := rfl
  have works : ¬ servedConnect.Throws := by decide
  have parts := failures_contained_iff [catTask] alive 50 5 (some servedConnect)
  exact ⟨parts.1.mpr (by decide), parts.2.1.mpr works⟩

def untimedTask : ConfiguredTask :=
  (catTask.1, ⟨{ catTask.2.memory with mStatus := .R, mPid := 1234 }, 3, false, 41⟩)

/-- The exception for the first task kills process 1234 and keeps the second task from being
registered. A client without a server ends the daemon as well. -/
theorem exceptions_escape :
    (taskCoreInit true [untimedTask, catTask]).ret = none ∧
      (taskCoreInit true [untimedTask, catTask]).world.registry.taskList = [] ∧
      .task 0 (.kill 1234) ∈ (taskCoreInit true [untimedTask, catTask]).outs ∧
      ¬ StartContained [untimedTask, catTask] ∧
      ¬ AcceptContained bareDaemon 50 5 (some unservedConnect) := by
  have thrown : (taskCoreInit true [untimedTask, catTask]).ret = none := by decide
  have killed : .task 0 (.kill 1234) ∈ (taskCoreInit true [untimedTask, catTask]).outs := by decide
  have dead : (bareDaemon.accept 50 5 (some unservedConnect)).1.alive = false := by decide
  refine ⟨thrown, by decide, killed, ?_, ?_⟩
  · intro contained
    have returned := contained.returned
    rw [thrown] at returned
    cases returned
  · intro contained
    have caught := contained.caught
    rw [dead] at caught
    cases caught

end TaskMonitor
