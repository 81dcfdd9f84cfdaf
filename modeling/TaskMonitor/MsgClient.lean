import TaskMonitor.Comm
import TaskMonitor.Package

/-! `MsgClient` of `task_msg.cpp`: requests, their timers, and the response decoders.

A request node carries the address `malloc` gave it. The model never gives one address
twice, so a stale pointer can be told from a live one. -/

namespace TaskMonitor

open CText Cjson

inductive RspData where
  | heartbeat (rsp : HeartbeatRsp)
  | queryAll (rsp : TaskAllRsp)
  | queryTask (rsp : TaskDetailInfo)
  deriving DecidableEq

structure MsgRequest (κ : Type*) where
  node : Nat
  reqId : UInt32
  type : EventType
  cb : Option κ
  timeStart : ℚ
  timeout : ℚ
  timer : Option Nat
  deriving DecidableEq

structure MsgClient (κ : Type*) where
  mClientFd : Int
  mRb : RingBuf
  mRequestList : List (MsgRequest κ)
  mCurReqId : UInt32

/-- A client with what lives outside it: the number of ids handed out so far, the allocated
request nodes, and the live timers with their user data. -/
structure ClientWorld (κ : Type*) where
  client : MsgClient κ
  issued : Nat
  nodes : List Nat
  timers : List (Nat × Nat)
  alive : Bool

/-- Why a callback runs: its request timed out, or a frame with this id came in. -/
inductive Cause where
  | timeout
  | frame (reqId : UInt32)
  deriving DecidableEq

structure Call (κ : Type*) where
  node : Nat
  cb : κ
  ret : Int
  data : Option RspData
  cause : Cause
  deriving DecidableEq

inductive ClientOut (κ : Type*) where
  | accepted (node : Nat)
  | called (call : Call κ)
  | timerDestroyed (timer : Nat)
  | freed (node : Nat)

/-- One `sendRequest` call, with the outcomes of its allocations and writes. -/
structure SendArgs (κ : Type*) where
  reqType : EventType
  data : List UInt8
  len : UInt32
  cb : Option κ
  timeout : ℚ
  now : ℚ
  mallocOk : Bool
  timerOk : Bool
  outcomes : List WriteOutcome

structure SendResult (κ : Type*) where
  world : ClientWorld κ
  outs : List (ClientOut κ)
  sent : List UInt8
  ret : Option Int

def mDefaultReqTimeout : ℚ := 3

/-- The places at which the building of a request allocates. -/
inductive ReqSite where
  | root | data | member (key : Text) | print
  deriving DecidableEq

structure SendEnv where
  alloc : ReqSite → Bool
  now : ℚ
  mallocOk : Bool
  timerOk : Bool
  outcomes : List WriteOutcome

def valuedouble : Json → ℚ
  | .number d => d
  | _ => 0

namespace MsgClient

variable {κ : Type*}

/-- The constructor does not set `mCurReqId`. -/
def new (fd : Int) (uninit : UInt32) : MsgClient κ := ⟨fd, .create, [], uninit⟩

def start (fd : Int) (uninit : UInt32) : ClientWorld κ := ⟨new fd uninit, 0, [], [], true⟩

def getNextReqId (w : ClientWorld κ) : UInt32 × ClientWorld κ :=
  let reqId := w.client.mCurReqId + 1
  (reqId, { w with client := { w.client with mCurReqId := reqId }, issued := w.issued + 1 })

/-- The node's address and its timer's handle are named after the number of the request. -/
def reqNodeCreate (w : ClientWorld κ) (reqId : UInt32) (a : SendArgs κ) :
    Option (MsgRequest κ) × ClientWorld κ × List (ClientOut κ) :=
  let node := w.issued
  if !a.mallocOk then (none, w, [])
  else if !a.timerOk then (none, w, [.freed node])
  else
    (some ⟨node, reqId, a.reqType, a.cb, a.now, a.timeout, some node⟩,
      { w with nodes := node :: w.nodes, timers := (node, node) :: w.timers }, [])

def destroyReqNode (w : ClientWorld κ) (req : MsgRequest κ) : ClientWorld κ × List (ClientOut κ) :=
  let (w, outs) : ClientWorld κ × List (ClientOut κ) :=
    match req.timer with
    | some timer => ({ w with timers := w.timers.filter (·.1 ≠ timer) }, [.timerDestroyed timer])
    | none => (w, [])
  ({ w with nodes := w.nodes.erase req.node }, outs ++ [.freed req.node])

/-- `list_del`: the node is unlinked wherever it stands. -/
def listDel (w : ClientWorld κ) (req : MsgRequest κ) : ClientWorld κ :=
  { w with client := { w.client with
      mRequestList := w.client.mRequestList.filter (·.node ≠ req.node) } }

def sendRequest (w : ClientWorld κ) (a : SendArgs κ) : SendResult κ :=
  let (reqId, w) := getNextReqId w
  let written := writeFrame reqId a.len a.data a.outcomes
  if a.timeout = 0 then ⟨w, [], written.sent, written.ret⟩
  else
    match written.ret with
    | none => ⟨w, [], written.sent, none⟩
    | some ret =>
        if ret ≠ 0 then ⟨w, [], written.sent, some ret⟩
        else
          match reqNodeCreate w reqId a with
          | (some req, w, outs) =>
              ⟨{ w with client := { w.client with mRequestList := req :: w.client.mRequestList } },
                outs ++ [.accepted req.node], written.sent, some 0⟩
          | (none, w, outs) => ⟨w, outs, written.sent, some (-1)⟩

def sendAll (w : ClientWorld κ) : List (SendArgs κ) → ClientWorld κ × List (ClientOut κ)
  | [] => (w, [])
  | a :: sends =>
      let r := sendRequest w a
      let (w, outs) := sendAll r.world sends
      (w, r.outs ++ outs)

/-- The end that the four encoders share. Their calls of `sendRequest` leave `reqType` out:
here it is the type that they write. -/
def sendTree (codec : Codec) (env : SendEnv) (w : ClientWorld κ) (type : EventType)
    (tree : Option Json) (cb : Option κ) : SendResult κ :=
  match tree with
  | none => ⟨w, [], [], some (-1)⟩
  | some root =>
      if env.alloc .print then
        let json := codec.print root
        sendRequest w ⟨type, json.bytes, UInt32.ofNat (json.strlen + 1), cb, mDefaultReqTimeout,
          env.now, env.mallocOk, env.timerOk, env.outcomes⟩
      else ⟨w, [], [], some (-1)⟩

theorem sendTree_cases (codec : Codec) (env : SendEnv) (w : ClientWorld κ) (type : EventType)
    (tree : Option Json) (cb : Option κ) :
    sendTree codec env w type tree cb = ⟨w, [], [], some (-1)⟩ ∨
      ∃ root a, tree = some root ∧ a.reqType = type ∧ a.data = (codec.print root).bytes ∧
        sendTree codec env w type tree cb = sendRequest w a := by
  rw [sendTree.eq_def]
  split
  · exact .inl rfl
  · rename_i root
    split
    · exact .inr ⟨root, _, rfl, rfl, rfl, rfl⟩
    · exact .inl rfl

def requestTree (alloc : ReqSite → Bool) (type : EventType) (data : Json) : Option Json := do
  let root ← createObject (alloc .root)
  if alloc .data then
    let root := addNumberToObject (alloc (.member (text "type"))) root (text "type") type.code
    return addItemToObject root (text "data") (some data)
  else none

def hearbeatTree (alloc : ReqSite → Bool) (pid : Int) (heartbeat : ℚ) : Option Json :=
  let data := addNumberToObject (alloc (.member (text "pid"))) (.object []) (text "pid") pid
  requestTree alloc .heartbeat
    (addNumberToObject (alloc (.member (text "heartbeat"))) data (text "heartbeat") heartbeat)

def sendReqHearbeat (codec : Codec) (env : SendEnv) (w : ClientWorld κ) (pid : Int)
    (heartbeat : ℚ) (cb : Option κ) : SendResult κ :=
  sendTree codec env w .heartbeat (hearbeatTree env.alloc pid heartbeat) cb

def queryAllTaskTree (alloc : ReqSite → Bool) : Option Json := do
  let root ← createObject (alloc .root)
  return addNumberToObject (alloc (.member (text "type"))) root (text "type")
    EventType.queryAll.code

def sendReqQueryAllTask (codec : Codec) (env : SendEnv) (w : ClientWorld κ) (cb : Option κ) :
    SendResult κ :=
  sendTree codec env w .queryAll (queryAllTaskTree env.alloc) cb

def querySingleTaskTree (alloc : ReqSite → Bool) (pid : Int) (name : Option Text) : Option Json :=
  let data := addNumberToObject (alloc (.member (text "pid"))) (.object []) (text "pid") pid
  requestTree alloc .queryTask <|
    match name with
    | some name => addStringToObject (alloc (.member (text "name"))) data (text "name") name
    | none => data

def sendReqQuerySingleTask (codec : Codec) (env : SendEnv) (w : ClientWorld κ) (pid : Int)
    (name : Option Text) (cb : Option κ) : SendResult κ :=
  sendTree codec env w .queryTask (querySingleTaskTree env.alloc pid name) cb

/-- The `pid` is a name the source does not declare: here it is the pid the caller means. -/
def taskActionTree (alloc : ReqSite → Bool) (pid action : Int) : Option Json :=
  let data := addNumberToObject (alloc (.member (text "pid"))) (.object []) (text "pid") pid
  requestTree alloc .taskAction
    (addNumberToObject (alloc (.member (text "action"))) data (text "action") action)

def sendReqTaskAction (codec : Codec) (env : SendEnv) (w : ClientWorld κ) (pid action : Int)
    (cb : Option κ) : SendResult κ :=
  sendTree codec env w .taskAction (taskActionTree env.alloc pid action) cb

/-- The heartbeat of the result is copied from the `pid` item. Neither item's type is looked at. -/
def decodeHeartbeatRsp (data : Option Json) : Option HeartbeatRsp := do
  let data ← data
  if data.isObject then
    let pidJson ← getObjectItem data (text "pid")
    let _heartBeatJson ← getObjectItem data (text "heatbeat")
    return ⟨UInt32.ofInt pidJson.valueint, valuedouble pidJson⟩
  else none

/-- One entry of a listing. The status is copied from the `name` item. -/
def decodeSimpleInfo (item : Json) : Option TaskSimpleInfo := do
  if item.isObject then
    let name ← stringItem item (text "name")
    let pid ← numberItem item (text "pid")
    let _status ← stringItem item (text "status")
    return ⟨strncpy 32 nameSize_pos name, UInt32.ofInt (truncate pid), strncpy 32 nameSize_pos name⟩
  else none

def isRaw : Json → Bool
  | .raw _ => true
  | _ => false

/-- The type asked for is `cJSON_Raw`. The array is as long as the children are many. -/
def decodeQueryAllRsp (data : Option Json) : Option TaskAllRsp := do
  let data ← data
  if isRaw data then
    let infos ← data.children.mapM decodeSimpleInfo
    if counted : infos.length = (UInt32.ofNat infos.length).toNat then
      return ⟨UInt32.ofNat infos.length, infos, counted⟩
    else none
  else none

def decodeQueryTaskRsp (data : Option Json) : Option TaskDetailInfo := do
  let data ← data
  if data.isObject then
    let pid ← numberItem data (text "pid")
    let name ← stringItem data (text "name")
    let param ← stringItem data (text "param")
    let status ← stringItem data (text "status")
    let heartBeat ← numberItem data (text "heartBeat")
    return ⟨UInt32.ofInt (truncate pid), strncpy 32 nameSize_pos name,
      strncpy 128 paramSize_pos param, strncpy 32 nameSize_pos status, heartBeat⟩
  else none

abbrev CbArgs := Int × Option RspData

/-- The shape the three decoders share: -1 without a call, or one call and 0. -/
def processRsp {α : Type*} (wrap : α → RspData) (decoded : Option α) (ret : Int) :
    Int × Option CbArgs :=
  match decoded with
  | none => (-1, none)
  | some rsp => (0, some (ret, some (wrap rsp)))

def processHeartbeatRsp (ret : Int) (data : Option Json) : Int × Option CbArgs :=
  processRsp .heartbeat (decodeHeartbeatRsp data) ret

def processQueryAllRsp (ret : Int) (data : Option Json) : Int × Option CbArgs :=
  processRsp .queryAll (decodeQueryAllRsp data) ret

def processQueryTaskRsp (ret : Int) (data : Option Json) : Int × Option CbArgs :=
  processRsp .queryTask (decodeQueryTaskRsp data) ret

def processTaskActionRsp (ret : Int) (_data : Option Json) : Int × Option CbArgs :=
  (0, some (ret, none))

def processRspData (req : MsgRequest κ) (ret : Int) (data : Option Json) : Int × Option CbArgs :=
  if req.cb.isNone then (0, none)
  else if ret ≠ 0 then (0, some (ret, none))
  else
    match req.type with
    | .heartbeat => processHeartbeatRsp ret data
    | .queryAll => processQueryAllRsp ret data
    | .queryTask => processQueryTaskRsp ret data
    | .taskAction => processTaskActionRsp ret data
    | .max => (-1, none)

def invoke (w : ClientWorld κ) (req : MsgRequest κ) (args : Option CbArgs) (cause : Cause)
    (during : List (SendArgs κ)) : ClientWorld κ × List (ClientOut κ) :=
  match req.cb, args with
  | some cb, some (ret, data) =>
      let (w, outs) := sendAll w during
      (w, .called ⟨req.node, cb, ret, data, cause⟩ :: outs)
  | _, _ => (w, [])

def retire (w : ClientWorld κ) (req : MsgRequest κ) : ClientWorld κ × List (ClientOut κ) :=
  destroyReqNode (listDel w req) req

def parseClientData (codec : Codec) (w : ClientWorld κ) (reqId : UInt32) (data : List UInt8)
    (during : List (SendArgs κ)) : Int × ClientWorld κ × List (ClientOut κ) :=
  match codec.parse data with
  | none => (-1, w, [])
  | some root =>
      match getObjectItem root (text "ret") with
      | none => (-1, w, [])
      | some retval =>
          let value := getObjectItem root (text "data")
          match w.client.mRequestList.find? (·.reqId = reqId) with
          | none => (0, w, [])
          | some pos =>
              let (ret, args) := processRspData pos retval.valueint value
              let (w, called) := invoke w pos args (.frame reqId) during
              let (w, gone) := retire w pos
              (ret, w, called ++ gone)

/-- The timer's user data is a node. A node that is not linked is left alone here. -/
def msgClientReqTimerCb (w : ClientWorld κ) (data : Nat) (during : List (SendArgs κ)) :
    ClientWorld κ × List (ClientOut κ) :=
  match w.client.mRequestList.find? (·.node = data) with
  | none => (w, [])
  | some req =>
      let (w, called) := invoke w req (some (EventErrCode.timeout.code, none)) .timeout during
      let (w, gone) := retire w req
      (w, called ++ gone)

def destroyAll (w : ClientWorld κ) : List (MsgRequest κ) → ClientWorld κ × List (ClientOut κ)
  | [] => (w, [])
  | pos :: next =>
      let (w, outs) := retire w pos
      let (w, later) := destroyAll w next
      (w, outs ++ later)

def destroy (w : ClientWorld κ) : ClientWorld κ × List (ClientOut κ) :=
  let (w, outs) := destroyAll w w.client.mRequestList
  ({ w with alive := false }, outs)

inductive Event (κ : Type*) where
  | send (a : SendArgs κ)
  | frame (reqId : UInt32) (data : List UInt8) (during : List (SendArgs κ))
  | expire (timer : Nat) (during : List (SendArgs κ))
  | destroy

def step (codec : Codec) (w : ClientWorld κ) (e : Event κ) : ClientWorld κ × List (ClientOut κ) :=
  if !w.alive then (w, [])
  else
    match e with
    | .send a =>
        let r := sendRequest w a
        (r.world, r.outs)
    | .frame reqId data during => (parseClientData codec w reqId data during).2
    | .expire timer during =>
        match w.timers.find? (·.1 = timer) with
        | none => (w, [])
        | some (_, data) => msgClientReqTimerCb w data during
    | .destroy => destroy w

def machine (codec : Codec) : StepMachine (ClientWorld κ) (Event κ) (ClientOut κ) := ⟨step codec⟩

def parsePackage (codec : Codec) (during : List (SendArgs κ)) (w : ClientWorld κ)
    (package : Package) : Int × ClientWorld κ × List (ClientOut κ) :=
  parseClientData codec w package.reqId (package.data.drop dataHeadLen.toNat) during

def recvData (codec : Codec) (w : ClientWorld κ) (call : RecvCall) (during : List (SendArgs κ)) :
    Received (ClientWorld κ × List (ClientOut κ)) :=
  TaskMonitor.recvData (parsePackage codec during w) w.client.mRb call

section Keeps

variable {α : Type*} (part : ClientWorld κ → α)

/-! A part of the world that no send and no `retire` changes stays the same until the destructor
runs. -/

theorem sendAll_keeps (sends : ∀ w a, part (sendRequest w a).world = part w) (w : ClientWorld κ)
    (during : List (SendArgs κ)) : part (sendAll w during).1 = part w := by
  induction during generalizing w with
  | nil => rfl
  | cons a during ih => exact (ih (sendRequest w a).world).trans (sends w a)

theorem invoke_keeps (sends : ∀ w a, part (sendRequest w a).world = part w) (w : ClientWorld κ)
    (req : MsgRequest κ) (args : Option CbArgs) (cause : Cause) (during : List (SendArgs κ)) :
    part (invoke w req args cause during).1 = part w := by
  rw [invoke.eq_def]
  split
  · exact sendAll_keeps part sends w during
  · rfl

theorem parseClientData_keeps (sends : ∀ w a, part (sendRequest w a).world = part w)
    (retires : ∀ w req, part (retire w req).1 = part w) (codec : Codec) (w : ClientWorld κ)
    (reqId : UInt32) (data : List UInt8) (during : List (SendArgs κ)) :
    part (parseClientData codec w reqId data during).2.1 = part w := by
  rw [parseClientData]
  split
  · rfl
  split
  · rfl
  dsimp only
  split
  · rfl
  · exact (retires _ _).trans (invoke_keeps part sends w _ _ _ during)

theorem msgClientReqTimerCb_keeps (sends : ∀ w a, part (sendRequest w a).world = part w)
    (retires : ∀ w req, part (retire w req).1 = part w) (w : ClientWorld κ) (data : Nat)
    (during : List (SendArgs κ)) : part (msgClientReqTimerCb w data during).1 = part w := by
  rw [msgClientReqTimerCb]
  split
  · rfl
  · exact (retires _ _).trans (invoke_keeps part sends w _ _ _ during)

theorem step_keeps (sends : ∀ w a, part (sendRequest w a).world = part w)
    (retires : ∀ w req, part (retire w req).1 = part w) (codec : Codec) (w : ClientWorld κ)
    {e : Event κ} (other : e ≠ .destroy) : part (step codec w e).1 = part w := by
  rw [step.eq_def]
  split
  · rfl
  cases e with
  | send a => exact sends w a
  | frame reqId data during =>
      exact parseClientData_keeps part sends retires codec w reqId data during
  | expire timer during =>
      dsimp only
      split
      · rfl
      · exact msgClientReqTimerCb_keeps part sends retires w _ during
  | destroy => exact absurd rfl other

end Keeps

end MsgClient

end TaskMonitor
