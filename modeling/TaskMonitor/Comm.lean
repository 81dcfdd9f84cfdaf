import TaskMonitor.Library.Cjson

/-! Constants, enumerations and message structures of `task_comm.h` and `task_msg.h`. -/

namespace TaskMonitor

open CText

def defaultHeartbeatTimeout : Nat := 5

inductive TaskStatus where
  | U | R | S | D | T | Z | max
  deriving DecidableEq, Repr

def taskActionStart : Int := 1
def taskActionStop : Int := 2
def taskActionRestart : Int := 3

inductive EventType where
  | heartbeat | queryAll | queryTask | taskAction | max
  deriving DecidableEq, Repr

def EventType.code : EventType → Nat
  | .heartbeat => 0
  | .queryAll => 1
  | .queryTask => 2
  | .taskAction => 3
  | .max => 4

inductive EventErrCode where
  | succ | fail | timeout | unknownType | system | parse | mem | unprocess | notFound | max
  deriving DecidableEq, Repr

def EventErrCode.code : EventErrCode → Nat
  | .succ => 0
  | .fail => 1
  | .timeout => 2
  | .unknownType => 3
  | .system => 4
  | .parse => 5
  | .mem => 6
  | .unprocess => 7
  | .notFound => 8
  | .max => 9

theorem EventErrCode.code_eq_zero_iff (e : EventErrCode) : e.code = 0 ↔ e = .succ := by
  cases e <;> decide

structure HeartbeatReq where
  pid : UInt32
  heartbeat : ℚ
  deriving DecidableEq

structure HeartbeatRsp where
  pid : UInt32
  heatbeat : ℚ
  deriving DecidableEq

theorem nameSize_pos : 0 < 32 := by decide

theorem paramSize_pos : 0 < 128 := by decide

structure TaskSimpleInfo where
  name : CharArray 32
  pid : UInt32
  status : CharArray 32
  deriving DecidableEq

/-- `taskList` is the flexible array behind `count`: the allocation has that many entries. -/
structure TaskAllRsp where
  count : UInt32
  taskList : List TaskSimpleInfo
  allocated : taskList.length = count.toNat
  deriving DecidableEq

structure TaskSingleReq where
  pid : UInt32
  name : CharArray 32
  deriving DecidableEq

structure TaskDetailInfo where
  pid : UInt32
  name : CharArray 32
  param : CharArray 128
  status : CharArray 32
  heartbeat : ℚ
  deriving DecidableEq

/-- The action is whatever number the request carried, also outside the enumeration. -/
structure TaskActionReq where
  pid : UInt32
  name : CharArray 32
  action : Int
  deriving DecidableEq

/-- What a callback registered for the type gets as `data`. -/
abbrev Req : EventType → Type
  | .heartbeat => HeartbeatReq
  | .queryAll => Unit
  | .queryTask => TaskSingleReq
  | .taskAction => TaskActionReq
  | .max => Empty

/-- What a callback registered for the type leaves in `reply`. -/
abbrev Rsp : EventType → Type
  | .heartbeat => HeartbeatRsp
  | .queryAll => TaskAllRsp
  | .queryTask => TaskDetailInfo
  | .taskAction => Unit
  | .max => Empty

end TaskMonitor
