import TaskMonitor.TaskObjClient
import TaskMonitor.Library.FirstIndex

/-! `task_core.cpp`: the registry of tasks and the callbacks that work on it. -/

namespace TaskMonitor

open CText

structure Registry where
  taskList : List TaskObj
  s_taskCount : UInt32
  deriving DecidableEq

/-- The registry while a callback runs, with the calls made on its tasks so far. -/
structure CoreWorld where
  registry : Registry
  calls : List (Nat × SysCall)
  deriving DecidableEq

/-- What a callback meets: whether its `malloc` works, what a `fork` returns, and what is in
memory where `processHeartbeat` reads its user data as a `TaskObj`. -/
structure CbEnv where
  mallocOk : Bool
  fork : Int
  misread : Option Nat → HeartbeatRsp

namespace CoreWorld

def actOn (w : CoreWorld) (i : Nat) (method : TaskObj → TaskResult) : CoreWorld :=
  match w.registry.taskList[i]? with
  | none => w
  | some task =>
      let r := method task
      ⟨{ w.registry with taskList := w.registry.taskList.set i r.task },
        w.calls ++ r.calls.map fun call => (i, call)⟩

end CoreWorld

/-- The user data is the connection object's address, and is read as if it were a task's. -/
def processHeartbeat (env : CbEnv) (usrData : Option Nat) (w : CoreWorld) :
    CbResult CoreWorld .heartbeat :=
  if env.mallocOk then ⟨.succ, some (env.misread usrData), w⟩ else ⟨.mem, none, w⟩

def getStatusStr : TaskStatus → Text
  | .U => text "unknown"
  | .R => text "running"
  | .S => text "sleeping"
  | .D => text "uninterrupt"
  | .T => text "traced"
  | .Z => text "zombie"
  | .max => text "unknown"

def simpleInfo (obj : TaskObj) : TaskSimpleInfo :=
  ⟨strncpy 32 nameSize_pos obj.getTaskName, UInt32.ofInt obj.getTaskPid,
    strncpy 32 nameSize_pos (getStatusStr obj.getTaskStatus)⟩

def noInfo : TaskSimpleInfo := ⟨.zero 32 nameSize_pos, 0, .zero 32 nameSize_pos⟩

/-- The loop over the tasks ends when the list does or when `count` entries are filled. The
entries behind stay zero. -/
def listing (count : Nat) (tasks : List TaskObj) : List TaskSimpleInfo :=
  (tasks.map simpleInfo).take count ++ List.replicate (count - tasks.length) noInfo

theorem listing_length (count : Nat) (tasks : List TaskObj) :
    (listing count tasks).length = count := by
  rw [listing, List.length_append, List.length_take, List.length_map, List.length_replicate]
  omega

theorem listing_eq_take {count : Nat} {tasks : List TaskObj} (room : count ≤ tasks.length) :
    listing count tasks = (tasks.map simpleInfo).take count := by
  rw [listing, Nat.sub_eq_zero_of_le room]
  exact List.append_nil _

def processGetAllTask (env : CbEnv) (w : CoreWorld) : CbResult CoreWorld .queryAll :=
  if env.mallocOk then
    ⟨.succ, some ⟨w.registry.s_taskCount, listing w.registry.s_taskCount.toNat w.registry.taskList,
      listing_length _ _⟩, w⟩
  else ⟨.mem, none, w⟩

/-- The search that the next two callbacks make: by pid, or by name where the pid is 0. -/
def selectTask (tasks : List TaskObj) (pid : UInt32) (name : CharArray 32) : Option Nat :=
  tasks.findIdx? fun obj =>
    if pid ≠ 0 then UInt32.ofInt obj.getTaskPid = pid
    else content obj.getTaskName = name.text

theorem selectTask_found {tasks : List TaskObj} {pid : UInt32} {name : CharArray 32} {i : Nat}
    (selects : selectTask tasks pid name = some i) : ∃ t, tasks[i]? = some t := by
  rcases FirstIndex.findIdx?_eq_some_iff.mp selects with ⟨⟨t, found, _⟩, _⟩
  exact ⟨t, found⟩

def IsPid (p : Int) : Prop := -2 ^ 31 ≤ p ∧ p < 2 ^ 31

instance (p : Int) : Decidable (IsPid p) := inferInstanceAs (Decidable (_ ∧ _))

theorem ofInt_eq_ofInt_iff {p q : Int} (first : IsPid p) (second : IsPid q) :
    UInt32.ofInt p = UInt32.ofInt q ↔ p = q := by
  constructor
  · intro same
    have words := congrArg UInt32.toNat same
    simp only [UInt32.ofInt, UInt32.toNat_ofNat'] at words
    rcases first with ⟨low, high⟩
    rcases second with ⟨low', high'⟩
    omega
  · exact congrArg UInt32.ofInt

theorem ofInt_ne_zero_iff {p : Int} (range : IsPid p) : UInt32.ofInt p ≠ 0 ↔ p ≠ 0 :=
  not_congr (ofInt_eq_ofInt_iff range (q := 0) (by decide))

theorem selectTask_of_pid {tasks : List TaskObj} (pids : ∀ t ∈ tasks, IsPid t.mPid) {p : Int}
    (range : IsPid p) (nonzero : p ≠ 0) (name : CharArray 32) :
    selectTask tasks (UInt32.ofInt p) name = tasks.findIdx? (·.getTaskPid = p) := by
  rw [selectTask]
  apply FirstIndex.findIdx?_congr
  intro t member
  rw [if_pos ((ofInt_ne_zero_iff range).mpr nonzero)]
  exact decide_eq_decide.mpr (ofInt_eq_ofInt_iff (pids t member) range)

theorem selectTask_of_zero (tasks : List TaskObj) (name : CharArray 32) :
    selectTask tasks 0 name = tasks.findIdx? (content ·.getTaskName = name.text) := rfl

/-- The heartbeat of the reply stays as `memset` left it. -/
def processGetSingleTask (env : CbEnv) (req : TaskSingleReq) (w : CoreWorld) :
    CbResult CoreWorld .queryTask :=
  match (selectTask w.registry.taskList req.pid req.name).bind (w.registry.taskList[·]?) with
  | none => ⟨.notFound, none, w⟩
  | some task =>
      if env.mallocOk then
        ⟨.succ, some ⟨UInt32.ofInt task.getTaskPid, strncpy 32 nameSize_pos task.getTaskName,
          strncpy 128 paramSize_pos task.getTaskParam,
          strncpy 32 nameSize_pos (getStatusStr task.getTaskStatus), 0⟩, w⟩
      else ⟨.mem, none, w⟩

/-- An action that is none of the three does nothing and succeeds. -/
def processTaskAction (env : CbEnv) (req : TaskActionReq) (w : CoreWorld) :
    CbResult CoreWorld .taskAction :=
  match selectTask w.registry.taskList req.pid req.name with
  | none => ⟨.notFound, none, w⟩
  | some task =>
      if req.action = taskActionStart then ⟨.succ, none, w.actOn task (·.startTask env.fork)⟩
      else if req.action = taskActionStop then ⟨.succ, none, w.actOn task (·.stopTask)⟩
      else if req.action = taskActionRestart then
        ⟨.succ, none, w.actOn task (·.restartTask env.fork)⟩
      else ⟨.succ, none, w⟩

def demandedCall (fork action : Int) : Option (TaskObj → TaskResult) :=
  if action = taskActionStart then some (·.startTask fork)
  else if action = taskActionStop then some (·.stopTask)
  else if action = taskActionRestart then some (·.restartTask fork)
  else none

theorem processTaskAction_makes {env : CbEnv} {req : TaskActionReq} {w : CoreWorld} {i : Nat}
    (selects : selectTask w.registry.taskList req.pid req.name = some i) :
    processTaskAction env req w =
      ⟨.succ, none, (demandedCall env.fork req.action).elim w (w.actOn i)⟩ := by
  rw [processTaskAction, selects, demandedCall]
  dsimp only
  split
  · rfl
  split
  · rfl
  split
  · rfl
  · rfl

/-- The callbacks by pointer. No registration pairs a pointer with another type. -/
def coreCallbacks (env : CbEnv) : CallbackSem CoreCb Nat CoreWorld
  | .processHeartbeat, .heartbeat, _, usrData, w => processHeartbeat env usrData w
  | .processGetAllTask, .queryAll, _, _, w => processGetAllTask env w
  | .processGetSingleTask, .queryTask, req, _, w => processGetSingleTask env req w
  | .processTaskAction, .taskAction, req, _, w => processTaskAction env req w
  | _, _, _, _, w => ⟨.fail, none, w⟩

structure TaskParm where
  name : CharArray 32
  path : CharArray 64
  param : CharArray 128
  heartbeat : ℚ

/-- What the registration of a task meets: the memory of the object, the random first delay,
the timer's creation and the `fork`. -/
structure RegisterEnv where
  memory : TaskObj
  random : UInt32
  timerOk : Bool
  fork : Int

/-- Whether the constructor returns: otherwise its exception goes through, after the calls of its
clean-up. -/
def taskParamCb (w : CoreWorld) (param : TaskParm) (env : RegisterEnv) : CoreWorld × Bool :=
  let i := w.registry.taskList.length
  match TaskObj.create env.memory param.name.text param.path.text param.param.text
      (UInt32.ofInt (param.heartbeat.num.tdiv param.heartbeat.den)) env.random env.timerOk with
  | (none, calls) => ({ w with calls := w.calls ++ calls.map fun call => (i, call) }, false)
  | (some obj, _) =>
      let started := obj.startTask env.fork
      (⟨⟨w.registry.taskList ++ [started.task], w.registry.s_taskCount + 1⟩,
        w.calls ++ started.calls.map fun call => (i, call)⟩, true)

end TaskMonitor
