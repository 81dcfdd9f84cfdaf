import TaskMonitor.Comm

/-! `TaskObj` of `TaskObj.cpp`: the supervised process, its status and its heartbeat timer.

What `fork` returns is an argument. The child's side of the `fork`, which only runs the
command, is left out. Deleting a `TaskObjClient` is an output: its destructor is elsewhere. -/

namespace TaskMonitor

open CText

/-- A timer of `libev_api`: the delay of its first expiry, the interval a restart sets, and the
time left while it is armed. -/
structure Timer where
  delay : ℚ
  interval : ℚ
  countdown : Option ℚ
  deriving DecidableEq

namespace Timer

def create (delay interval : ℚ) : Timer := ⟨delay, interval, none⟩

def start (timer : Timer) : Timer := { timer with countdown := some timer.delay }

def restart (timer : Timer) : Timer := { timer with countdown := some timer.interval }

def stop (timer : Timer) : Timer := { timer with countdown := none }

end Timer

/-- The calls that leave the daemon's own data: on processes, descriptors and watchers, and
the destruction of objects. -/
inductive SysCall where
  | fork (pid : Int)
  | kill (pid : Int)
  | waitpid (pid : Int)
  | close (fd : Int)
  | watchCreate (fd : Int) (client : Nat)
  | watchDestroy (io : Nat)
  | timerDestroy
  | deleteClient (client : Nat)
  | deleteServer
  deriving DecidableEq, Repr

def SysCall.Inert : SysCall → Prop
  | .fork _ | .kill _ | .waitpid _ => False
  | _ => True

/-- `mClient` is the address of the task's connection object. -/
structure TaskObj where
  mName : Text
  mPath : Text
  mParam : Text
  mHeartbeat : UInt32
  mPid : Int
  mTimer : Option Timer
  mStatus : TaskStatus
  mClient : Option Nat
  mReadIo : Option Nat
  mClientFd : Int
  deriving DecidableEq

structure TaskResult where
  task : TaskObj
  calls : List SysCall
  ret : Int
  deriving DecidableEq

namespace TaskObj

def stopTaskClient (t : TaskObj) : TaskResult :=
  match t.mClient with
  | some client => ⟨{ t with mClient := none }, [.deleteClient client], 0⟩
  | none => ⟨t, [], 0⟩

def startTask (t : TaskObj) (pid : Int) : TaskResult :=
  if t.mStatus ≠ .U then ⟨t, [], -1⟩
  else
    ⟨{ t with mPid := pid, mStatus := .R, mTimer := t.mTimer.map Timer.start }, [.fork pid], 0⟩

def closeReadIo (t : TaskObj) : TaskObj × List SysCall :=
  match t.mReadIo with
  | none => (t, [])
  | some io =>
      if t.mClientFd > 0 then
        ({ t with mReadIo := none, mClientFd := -1 }, [.watchDestroy io, .close t.mClientFd])
      else ({ t with mReadIo := none }, [.watchDestroy io])

def stopTask (t : TaskObj) : TaskResult :=
  if t.mStatus = .U then ⟨t, [], -1⟩
  else
    let (t', closed) := t.closeReadIo
    ⟨{ t' with mTimer := t'.mTimer.map Timer.stop, mStatus := .U },
      .kill t.mPid :: closed ++ [.waitpid t.mPid], 0⟩

def restartTask (t : TaskObj) (pid : Int) : TaskResult :=
  let stopped := t.stopTask
  let started := stopped.task.startTask pid
  { started with calls := stopped.calls ++ started.calls }

def refreshHeartBeat (t : TaskObj) : TaskObj := { t with mTimer := t.mTimer.map Timer.restart }

def clearTask (t : TaskObj) : TaskResult :=
  let detached := t.stopTaskClient
  let stopped : TaskResult :=
    if detached.task.mStatus ≠ .U then detached.task.stopTask else ⟨detached.task, [], 0⟩
  let destroyed : List SysCall := if stopped.task.mTimer.isSome then [.timerDestroy] else []
  ⟨{ stopped.task with mTimer := none, mName := [], mPath := [], mParam := [], mHeartbeat := 0 },
    detached.calls ++ stopped.calls ++ destroyed, 0⟩

/-- The constructor. It sets neither `mPid`, `mStatus`, `mClient` nor `mClientFd`: they are
what the memory held. `none` is the exception, after the calls of `clearTask`. -/
def create (memory : TaskObj) (name path param : Text) (heartbeat random : UInt32)
    (timerOk : Bool) : Option TaskObj × List SysCall :=
  let t : TaskObj :=
    { memory with mName := name, mPath := path, mParam := param, mHeartbeat := heartbeat }
  if timerOk then
    (some { t with mTimer := some (.create random.toNat heartbeat.toNat), mReadIo := none }, [])
  else (none, { t with mTimer := none }.clearTask.calls)

theorem startTask_of_idle {t : TaskObj} (idle : t.mStatus = .U) (pid : Int) :
    t.startTask pid =
      ⟨{ t with mPid := pid, mStatus := .R, mTimer := t.mTimer.map Timer.start },
        [.fork pid], 0⟩ := by
  simp [startTask, idle]

theorem startTask_of_active {t : TaskObj} (active : t.mStatus ≠ .U) (pid : Int) :
    t.startTask pid = ⟨t, [], -1⟩ := if_pos active

theorem stopTask_of_idle {t : TaskObj} (idle : t.mStatus = .U) : t.stopTask = ⟨t, [], -1⟩ :=
  if_pos idle

theorem stopTask_calls {t : TaskObj} (active : t.mStatus ≠ .U) :
    t.stopTask.calls = .kill t.mPid :: (t.closeReadIo.2 ++ [.waitpid t.mPid]) := by
  rw [stopTask, if_neg active]
  rfl

theorem closeReadIo_inert (t : TaskObj) : ∀ call ∈ t.closeReadIo.2, call.Inert := by
  rw [closeReadIo]
  split
  · simp
  · split <;> simp [SysCall.Inert]

theorem closeReadIo_mTimer (t : TaskObj) : t.closeReadIo.1.mTimer = t.mTimer := by
  rw [closeReadIo]
  split
  · rfl
  · split <;> rfl

theorem stopTaskClient_task (t : TaskObj) : t.stopTaskClient.task = { t with mClient := none } := by
  rw [stopTaskClient]
  split
  · rfl
  · rename_i detached
    rw [← detached]

theorem stopTaskClient_inert (t : TaskObj) : ∀ call ∈ t.stopTaskClient.calls, call.Inert := by
  rw [stopTaskClient]
  split <;> simp [SysCall.Inert]

theorem stopTask_idle (t : TaskObj) : t.stopTask.task.mStatus = .U := by
  rw [stopTask]
  split
  · assumption
  · rfl

theorem closeReadIo_mPid (t : TaskObj) : t.closeReadIo.1.mPid = t.mPid := by
  rw [closeReadIo]
  split
  · rfl
  · split <;> rfl

theorem stopTask_mPid (t : TaskObj) : t.stopTask.task.mPid = t.mPid := by
  rw [stopTask]
  split
  · rfl
  · exact t.closeReadIo_mPid

theorem closeReadIo_mClient (t : TaskObj) : t.closeReadIo.1.mClient = t.mClient := by
  rw [closeReadIo]
  split
  · rfl
  · split <;> rfl

theorem stopTask_mClient (t : TaskObj) : t.stopTask.task.mClient = t.mClient := by
  rw [stopTask]
  split
  · rfl
  · exact t.closeReadIo_mClient

theorem startTask_mClient (t : TaskObj) (pid : Int) :
    (t.startTask pid).task.mClient = t.mClient := by
  rw [startTask]
  split <;> rfl

theorem restartTask_mClient (t : TaskObj) (pid : Int) :
    (t.restartTask pid).task.mClient = t.mClient :=
  (t.stopTask.task.startTask_mClient pid).trans t.stopTask_mClient

theorem clearTask_mClient (t : TaskObj) : t.clearTask.task.mClient = none := by
  have detached : t.stopTaskClient.task.mClient = none := by rw [t.stopTaskClient_task]
  rw [clearTask]
  dsimp only
  split
  · exact (stopTask_mClient _).trans detached
  · exact detached

def getTaskName (t : TaskObj) : Text := t.mName

def getTaskPid (t : TaskObj) : Int := t.mPid

def getTaskHeartbeat (t : TaskObj) : ℚ := t.mHeartbeat.toNat

def getTaskStatus (t : TaskObj) : TaskStatus := t.mStatus

def getTaskParam (t : TaskObj) : Text := t.mParam

end TaskObj

def taskTimeoutCb (t : TaskObj) (pid : Int) : TaskResult := t.restartTask pid

end TaskMonitor
