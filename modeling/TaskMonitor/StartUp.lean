import TaskMonitor.TaskCore
import TaskMonitor.TaskServer

/-! `task_core_init` and `foreach_task`: the configured tasks become the registry. -/

namespace TaskMonitor

open CText

/-- `foreach_task` over the configured list. The callback says whether it returned: an exception
that goes through it ends the walk. -/
def foreachTask {σ α : Type*} (cb : σ → α → σ × Bool) : List α → σ → σ × Bool
  | [], w => (w, true)
  | pos :: later, w => if (cb w pos).2 then foreachTask cb later (cb w pos).1 else cb w pos

abbrev ConfiguredTask := TaskParm × RegisterEnv

inductive InitOut where
  | server (call : ServerCall)
  | task (i : Nat) (call : SysCall)
  deriving DecidableEq

/-- What `task_core_init` leaves, with its calls in their order. There is no result after an
exception. -/
structure InitResult where
  ret : Option Int
  taskServer : Option TaskServer
  s_clilist_timer : Option Timer
  world : CoreWorld
  outs : List InitOut

def emptyWorld : CoreWorld := ⟨⟨[], 0⟩, []⟩

def taskCoreInit (timerOk : Bool) (tasks : List ConfiguredTask) : InitResult :=
  let server := TaskServer.new taskUnixPath
  if timerOk then
    let registered := foreachTask (fun w task => taskParamCb w task.1 task.2) tasks emptyWorld
    ⟨if registered.2 then some 0 else none, some server, some (Timer.create 10 10).start,
      registered.1, registered.1.calls.map fun call => .task call.1 call.2⟩
  else ⟨some (-1), none, none, emptyWorld, server.stopServer.calls.map .server⟩

def newTask (task : ConfiguredTask) : TaskObj :=
  { task.2.memory with
      mName := task.1.name.text
      mPath := task.1.path.text
      mParam := task.1.param.text
      mHeartbeat := UInt32.ofInt (task.1.heartbeat.num.tdiv task.1.heartbeat.den)
      mTimer := some (.create task.2.random.toNat
        (UInt32.ofInt (task.1.heartbeat.num.tdiv task.1.heartbeat.den)).toNat)
      mReadIo := none }

def startedTask (task : ConfiguredTask) : TaskResult := (newTask task).startTask task.2.fork

theorem taskParamCb_works {task : ConfiguredTask} (works : task.2.timerOk = true) (w : CoreWorld) :
    taskParamCb w task.1 task.2 =
      (⟨⟨w.registry.taskList ++ [(startedTask task).task], w.registry.s_taskCount + 1⟩,
        w.calls ++ (startedTask task).calls.map fun call => (w.registry.taskList.length, call)⟩,
        true) := by
  rw [taskParamCb, TaskObj.create, works]
  rfl

theorem taskParamCb_throws {task : ConfiguredTask} (fails : task.2.timerOk = false)
    (w : CoreWorld) : (taskParamCb w task.1 task.2).2 = false ∧
      (taskParamCb w task.1 task.2).1.registry = w.registry := by
  rw [taskParamCb, TaskObj.create, fails]
  exact ⟨rfl, rfl⟩

def startCalls : List ConfiguredTask → Nat → List (Nat × SysCall)
  | [], _ => []
  | task :: tasks, i =>
      ((startedTask task).calls.map fun call => (i, call)) ++ startCalls tasks (i + 1)

theorem foreachTask_registers {tasks : List ConfiguredTask}
    (works : ∀ task ∈ tasks, task.2.timerOk = true) (w : CoreWorld) :
    foreachTask (fun w task => taskParamCb w task.1 task.2) tasks w =
      (⟨⟨w.registry.taskList ++ tasks.map fun task => (startedTask task).task,
          w.registry.s_taskCount + UInt32.ofNat tasks.length⟩,
        w.calls ++ startCalls tasks w.registry.taskList.length⟩, true) := by
  induction tasks generalizing w with
  | nil => simp [foreachTask, startCalls]
  | cons task tasks ih =>
      have head := taskParamCb_works (works task List.mem_cons_self) w
      have later := ih fun task member => works task (List.mem_cons_of_mem _ member)
      have counted : w.registry.s_taskCount + 1 + UInt32.ofNat tasks.length =
          w.registry.s_taskCount + UInt32.ofNat (task :: tasks).length := by
        rw [List.length_cons, UInt32.ofNat_add, UInt32.add_comm (UInt32.ofNat _), UInt32.add_assoc]
        rfl
      rw [foreachTask]
      simp only [head, if_true]
      rw [later]
      simp only [counted]
      simp [startCalls]

theorem foreachTask_returns_iff (tasks : List ConfiguredTask) (w : CoreWorld) :
    (foreachTask (fun w task => taskParamCb w task.1 task.2) tasks w).2 = true ↔
      ∀ task ∈ tasks, task.2.timerOk = true := by
  induction tasks generalizing w with
  | nil => simp [foreachTask]
  | cons task tasks ih =>
      rw [foreachTask]
      cases works : task.2.timerOk with
      | true => simp [taskParamCb_works works w, ih, works]
      | false => simp [(taskParamCb_throws works w).1, works]

theorem taskCoreInit_returns_iff (tasks : List ConfiguredTask) :
    (taskCoreInit true tasks).ret = some 0 ↔ ∀ task ∈ tasks, task.2.timerOk = true := by
  rw [← foreachTask_returns_iff tasks emptyWorld, taskCoreInit, if_pos rfl]
  simp

theorem taskCoreInit_world {tasks : List ConfiguredTask}
    (works : ∀ task ∈ tasks, task.2.timerOk = true) :
    (taskCoreInit true tasks).world =
      ⟨⟨tasks.map fun task => (startedTask task).task, UInt32.ofNat tasks.length⟩,
        startCalls tasks 0⟩ := by
  rw [taskCoreInit, if_pos rfl]
  simp only [foreachTask_registers works, emptyWorld, UInt32.zero_add]
  rfl

def forksOf (i : Nat) (calls : List (Nat × SysCall)) : List Int :=
  calls.filterMap fun
    | (j, .fork pid) => if j = i then some pid else none
    | _ => none

theorem startedTask_idle {task : ConfiguredTask} (idle : task.2.memory.mStatus = .U) :
    (startedTask task).task.mStatus = .R ∧
      (startedTask task).task.mTimer = (newTask task).mTimer.map Timer.start ∧
      (startedTask task).task.mPid = task.2.fork ∧
      (startedTask task).calls = [.fork task.2.fork] := by
  have started := TaskObj.startTask_of_idle (t := newTask task) idle task.2.fork
  rw [startedTask, started]
  exact ⟨rfl, rfl, rfl, rfl⟩

theorem startedTask_active {task : ConfiguredTask} (active : task.2.memory.mStatus ≠ .U) :
    (startedTask task).calls = [] := by
  have refused := TaskObj.startTask_of_active (t := newTask task) active task.2.fork
  rw [startedTask, refused]

theorem forksOf_append (i : Nat) (front back : List (Nat × SysCall)) :
    forksOf i (front ++ back) = forksOf i front ++ forksOf i back := List.filterMap_append

theorem forksOf_startedTask (task : ConfiguredTask) (i j : Nat) :
    forksOf i ((startedTask task).calls.map fun call => (j, call)) =
      if j = i ∧ task.2.memory.mStatus = .U then [task.2.fork] else [] := by
  by_cases idle : task.2.memory.mStatus = .U
  · rw [(startedTask_idle idle).2.2.2]
    by_cases same : j = i
    · simp [forksOf, same, idle]
    · simp [forksOf, same]
  · rw [startedTask_active idle]
    simp [forksOf, idle]

theorem forksOf_startCalls_before (tasks : List ConfiguredTask) {i j : Nat} (before : i < j) :
    forksOf i (startCalls tasks j) = [] := by
  induction tasks generalizing j with
  | nil => rfl
  | cons task tasks ih =>
      have elsewhere : ¬ (j = i ∧ task.2.memory.mStatus = .U) := fun here => by omega
      rw [startCalls, forksOf_append, forksOf_startedTask, if_neg elsewhere, ih (by omega)]
      rfl

theorem forksOf_startCalls {tasks : List ConfiguredTask} {j : Nat} {task : ConfiguredTask}
    (found : tasks[j]? = some task) (i : Nat) :
    forksOf (i + j) (startCalls tasks i) =
      if task.2.memory.mStatus = .U then [task.2.fork] else [] := by
  induction tasks generalizing i j with
  | nil => cases found
  | cons head tasks ih =>
      rw [startCalls, forksOf_append, forksOf_startedTask]
      cases j with
      | zero =>
          obtain rfl := Option.some.inj found
          rw [Nat.add_zero, forksOf_startCalls_before tasks (Nat.lt_succ_self i)]
          simp
      | succ j =>
          have elsewhere : ¬ (i = i + (j + 1) ∧ head.2.memory.mStatus = .U) := fun here => by omega
          have later := ih found (i + 1)
          rw [Nat.add_right_comm, Nat.add_assoc] at later
          rw [if_neg elsewhere, later]
          rfl

def configured (param : TaskParm) : Text × Text × Text × UInt32 :=
  (param.name.text, param.path.text, param.param.text,
    UInt32.ofInt (param.heartbeat.num.tdiv param.heartbeat.den))

def described (t : TaskObj) : Text × Text × Text × UInt32 :=
  (t.mName, t.mPath, t.mParam, t.mHeartbeat)

structure Started (i : Nat) (t : TaskObj) (calls : List (Nat × SysCall)) : Prop where
  running : t.mStatus = .R
  forked : forksOf i calls = [t.mPid]
  armed : ∃ timer left, t.mTimer = some timer ∧ timer.countdown = some left

structure Supervised (params : List TaskParm) (w : CoreWorld) : Prop where
  registered : w.registry.taskList.map described = params.map configured
  started : ∀ i t, w.registry.taskList[i]? = some t → Started i t w.calls

theorem described_startedTask (task : ConfiguredTask) :
    described (startedTask task).task = configured task.1 := by
  by_cases idle : task.2.memory.mStatus = .U
  · rw [startedTask, TaskObj.startTask_of_idle (t := newTask task) idle]
    rfl
  · rw [startedTask, TaskObj.startTask_of_active (t := newTask task) idle]
    rfl

theorem started_iff {tasks : List ConfiguredTask} {i : Nat} {task : ConfiguredTask}
    (found : tasks[i]? = some task) :
    Started i (startedTask task).task (startCalls tasks 0) ↔ task.2.memory.mStatus = .U := by
  have forks := forksOf_startCalls found 0
  rw [Nat.zero_add] at forks
  constructor
  · intro started
    by_contra active
    rw [if_neg active] at forks
    rw [started.forked] at forks
    cases forks
  · intro idle
    rcases startedTask_idle idle with ⟨running, timer, pid, _⟩
    rw [if_pos idle] at forks
    constructor
    · exact running
    · rw [forks, pid]
    · exact ⟨_, _, timer, rfl⟩

/-- Where every timer can be created the registrations succeed, and every task is started exactly
if the memory of every object says that the task is not running. -/
theorem supervised_iff {tasks : List ConfiguredTask}
    (works : ∀ task ∈ tasks, task.2.timerOk = true) :
    Supervised (tasks.map Prod.fst) (taskCoreInit true tasks).world ↔
      ∀ task ∈ tasks, task.2.memory.mStatus = .U := by
  rw [taskCoreInit_world works]
  constructor
  · intro supervised task member
    rcases List.mem_iff_getElem?.mp member with ⟨i, found⟩
    have listed : (tasks.map fun task => (startedTask task).task)[i]? =
        some (startedTask task).task := by
      rw [List.getElem?_map, found]
      rfl
    exact (started_iff found).mp (supervised.started i _ listed)
  · intro idle
    constructor
    · rw [List.map_map, List.map_map]
      exact List.map_congr_left fun task _ => described_startedTask task
    · intro i t listed
      rw [List.getElem?_map] at listed
      rcases Option.map_eq_some_iff.mp listed with ⟨task, found, rfl⟩
      exact (started_iff found).mpr (idle task (List.mem_of_getElem? found))

def Watched (outs : List InitOut) : Prop :=
  ∃ fd io, .server (.watchCreate fd io) ∈ outs ∧ .server (.watchDestroy io) ∉ outs

structure Established (params : List TaskParm) (r : InitResult) : Prop where
  watched : ∀ before i pid after,
    r.outs = before ++ .task i (.fork pid) :: after → Watched before
  supervised : Supervised params r.world
  counted : r.world.registry.s_taskCount.toNat = params.length

theorem taskCoreInit_serverless (tasks : List ConfiguredTask) (call : ServerCall) :
    .server call ∉ (taskCoreInit true tasks).outs := by
  rw [taskCoreInit, if_pos rfl]
  simp

theorem mem_forksOf {i : Nat} {pid : Int} {calls : List (Nat × SysCall)}
    (forked : pid ∈ forksOf i calls) : (i, .fork pid) ∈ calls := by
  rcases List.mem_filterMap.mp forked with ⟨call, member, found⟩
  rcases call with ⟨j, call⟩
  cases call with
  | fork other =>
      simp only [Option.ite_none_right_eq_some, Option.some.injEq] at found
      rcases found with ⟨rfl, rfl⟩
      exact member
  | _ => cases found

theorem Supervised.forks {param : TaskParm} {params : List TaskParm} {w : CoreWorld}
    (supervised : Supervised (param :: params) w) : ∃ pid, (0, .fork pid) ∈ w.calls := by
  have registered := congrArg List.length supervised.registered
  simp only [List.length_map, List.length_cons] at registered
  have first : ∃ t, w.registry.taskList[0]? = some t := ⟨_, List.getElem?_eq_getElem (by omega)⟩
  rcases first with ⟨t, listed⟩
  have forked := (supervised.started 0 t listed).forked
  exact ⟨t.mPid, mem_forksOf (forked ▸ List.mem_singleton_self _)⟩

/-- A start-up in which everything succeeds returns 0, and does what it should only if there is
no task: no task is forked with the server listening. -/
theorem start_up_iff {tasks : List ConfiguredTask}
    (works : ∀ task ∈ tasks, task.2.timerOk = true) :
    (taskCoreInit true tasks).ret = some 0 ∧
      (Established (tasks.map Prod.fst) (taskCoreInit true tasks) ↔ tasks = []) := by
  constructor
  · exact (taskCoreInit_returns_iff tasks).mpr works
  · constructor
    · intro established
      cases tasks with
      | nil => rfl
      | cons task tasks =>
          rcases established.supervised.forks with ⟨pid, forked⟩
          have seen : .task 0 (.fork pid) ∈ (taskCoreInit true (task :: tasks)).outs :=
            List.mem_map.mpr ⟨_, forked, rfl⟩
          rcases List.append_of_mem seen with ⟨before, after, split⟩
          rcases established.watched before 0 _ after split with ⟨fd, io, created, _⟩
          have absent := taskCoreInit_serverless (task :: tasks) (.watchCreate fd io)
          rw [split] at absent
          exact absurd (List.mem_append_left _ created) absent
    · intro none_configured
      subst none_configured
      constructor
      · intro before i pid after split
        have empty : (taskCoreInit true []).outs = [] := rfl
        rw [empty] at split
        simp at split
      · exact (supervised_iff works).mpr (by simp)
      · rfl

theorem pathSize_pos : 0 < 64 := by decide

def catTask : ConfiguredTask :=
  (⟨strncpy 32 nameSize_pos (text "cat"), strncpy 64 pathSize_pos (text "/bin/cat"),
      .zero 128 paramSize_pos, 5⟩,
    ⟨⟨[], [], [], 0, 0, none, .U, none, none, 0⟩, 3, true, 40⟩)

theorem start_up_iff_cat :
    (taskCoreInit true [catTask]).ret = some 0 ∧
      (Established [catTask.1] (taskCoreInit true [catTask]) ↔ [catTask] = []) := by
  have works : ∀ task ∈ [catTask], task.2.timerOk = true := by decide
  exact start_up_iff works

/-- The task is forked, and no socket is watched. -/
theorem cat_forked_unwatched :
    (taskCoreInit true [catTask]).outs = [.task 0 (.fork 40)] ∧
      ¬ Established [catTask.1] (taskCoreInit true [catTask]) := by
  have outs : (taskCoreInit true [catTask]).outs = [] ++ .task 0 (.fork 40) :: [] := by decide
  constructor
  · exact outs
  · intro established
    rcases established.watched [] 0 40 [] outs with ⟨fd, io, created, _⟩
    cases created

end TaskMonitor
