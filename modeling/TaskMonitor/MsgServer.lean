import TaskMonitor.Comm
import TaskMonitor.Package

/-! `MsgServer` of `task_msg.cpp`: the request handlers and the reply path.

Callbacks are function pointers `κ` with user data `υ`; what they do to the world `σ` is the
interpreter `call`. Messages the source logs are left out. -/

namespace TaskMonitor

open CText Cjson

/-- The places of one request at which the server allocates. -/
inductive AllocSite where
  | root | data | item (i : Nat) | member (key : Text) | itemMember (i : Nat) (key : Text)
  | print | failRoot | failMember | failPrint
  deriving DecidableEq

structure CbResult (σ : Type*) (t : EventType) where
  ret : EventErrCode
  reply : Option (Rsp t)
  world : σ

abbrev CallbackSem (κ υ σ : Type*) := κ → (t : EventType) → Req t → Option υ → σ → CbResult σ t

/-- User data that no registration has set is indeterminate, here absent. -/
structure MsgServer (κ υ : Type*) where
  mRb : RingBuf
  mClientFd : Int
  mEventCb : EventType → Option κ
  mUserData : EventType → Option υ

/-- One callback invocation: the pointer, the type it was found under, its request and user
data, and what it returned. -/
structure Invocation (κ υ : Type*) where
  cb : κ
  type : EventType
  req : Req type
  usrData : Option υ
  ret : EventErrCode

structure HandlerResult (κ υ σ : Type*) where
  errcode : EventErrCode
  replyData : Option CString
  world : σ
  invoked : Option (Invocation κ υ)

/-- Outcome of `parseServerData`: its result, absent while a write waits, and what it put on
the wire. -/
structure ServerResult (κ υ σ : Type*) where
  ret : Option Int
  wire : List UInt8
  world : σ
  invoked : Option (Invocation κ υ)

namespace MsgServer

variable {κ υ σ : Type*}

/-- The constructor clears the callbacks and leaves the user data as it finds it. -/
def new (fd : Int) (uninit : EventType → Option υ) : MsgServer κ υ :=
  ⟨.create, fd, fun _ => none, uninit⟩

def registerEventCb (srv : MsgServer κ υ) (type : EventType) (cb : κ) (usrData : υ) :
    MsgServer κ υ × Int :=
  if type.code ≥ EventType.max.code then (srv, -1)
  else if (srv.mEventCb type).isSome then (srv, -1)
  else
    ({ srv with
        mEventCb := Function.update srv.mEventCb type (some cb)
        mUserData := Function.update srv.mUserData type (some usrData) }, 0)

def createFailMsg (codec : Codec) (alloc : AllocSite → Bool) (errcode : EventErrCode) :
    Option CString :=
  match createObject (alloc .failRoot) with
  | none => none
  | some root =>
      let root := addNumberToObject (alloc .failMember) root (text "ret") errcode.code
      if alloc .failPrint then some (codec.print root) else none

/-- The steps all four handlers share. `decode` fills the request from the `data` item,
`usrType` is the type under which the user data is looked up, `encode` builds the reply tree
from what the callback left in `reply`. -/
def processReq (type usrType : EventType) (decode : Option Json → Option (Req type))
    (encode : Option (Rsp type) → Option Json) (codec : Codec) (call : CallbackSem κ υ σ)
    (alloc : AllocSite → Bool) (srv : MsgServer κ υ) (data : Option Json) (w : σ) :
    HandlerResult κ υ σ :=
  match decode data with
  | none => ⟨.parse, none, w, none⟩
  | some req =>
      match srv.mEventCb type with
      | none => ⟨.unprocess, none, w, none⟩
      | some cb =>
          let r := call cb type req (srv.mUserData usrType) w
          let invoked := some ⟨cb, type, req, srv.mUserData usrType, r.ret⟩
          if r.ret ≠ .succ then ⟨r.ret, none, r.world, invoked⟩
          else
            match encode r.reply with
            | none => ⟨.mem, none, r.world, invoked⟩
            | some root =>
                if alloc .print then ⟨.succ, some (codec.print root), r.world, invoked⟩
                else ⟨.mem, none, r.world, invoked⟩

def objectData : Option Json → Option Json
  | some data => if data.isObject then some data else none
  | none => none

def decodeHeartbeatReq (data : Option Json) : Option HeartbeatReq := do
  let data ← objectData data
  let pid ← numberItem data (text "pid")
  let heartbeat ← numberItem data (text "hearbeat")
  return ⟨UInt32.ofInt (truncate pid), heartbeat⟩

def replyTree (alloc : AllocSite → Bool) (data : Json) : Option Json := do
  let root ← createObject (alloc .root)
  if alloc .data then
    return addItemToObject (addNumberToObject (alloc (.member (text "ret"))) root (text "ret") 0)
      (text "data") (some data)
  else none

def encodeHeartbeatRsp (alloc : AllocSite → Bool) (rsp : Option HeartbeatRsp) : Option Json := do
  let rsp ← rsp
  let data :=
    addNumberToObject (alloc (.member (text "pid"))) (.object []) (text "pid") rsp.pid.toNat
  replyTree alloc
    (addNumberToObject (alloc (.member (text "heartbeat"))) data (text "heartbeat") rsp.heatbeat)

def processHeartbeatReq (codec : Codec) (call : CallbackSem κ υ σ) (alloc : AllocSite → Bool)
    (srv : MsgServer κ υ) (data : Option Json) (w : σ) : HandlerResult κ υ σ :=
  processReq .heartbeat .heartbeat decodeHeartbeatReq (encodeHeartbeatRsp alloc) codec call alloc
    srv data w

def encodeSimpleInfo (alloc : AllocSite → Bool) (i : Nat) (info : TaskSimpleInfo) :
    Option Json := do
  let item ← createObject (alloc (.item i))
  let item :=
    addStringToObject (alloc (.itemMember i (text "name"))) item (text "name") info.name.text
  let item :=
    addNumberToObject (alloc (.itemMember i (text "pid"))) item (text "pid") info.pid.toNat
  return addStringToObject (alloc (.itemMember i (text "status"))) item (text "status")
    info.status.text

def encodeTaskList (alloc : AllocSite → Bool) (dataJsonReply : Json) (i : Nat) :
    List TaskSimpleInfo → Option Json
  | [] => some dataJsonReply
  | info :: infos => do
      let item ← encodeSimpleInfo alloc i info
      encodeTaskList alloc (addItemToArray dataJsonReply item) (i + 1) infos

def encodeQueryAllRsp (alloc : AllocSite → Bool) (rsp : Option TaskAllRsp) : Option Json := do
  let rsp ← rsp
  let data ← encodeTaskList alloc (.array []) 0 rsp.taskList
  replyTree alloc data

def processQueryAllReq (codec : Codec) (call : CallbackSem κ υ σ) (alloc : AllocSite → Bool)
    (srv : MsgServer κ υ) (data : Option Json) (w : σ) : HandlerResult κ υ σ :=
  processReq .queryAll .queryAll (fun _ => some ()) (encodeQueryAllRsp alloc) codec call alloc
    srv data w

/-- The name is looked at only when there is no `pid` item. -/
def decodeQuerySingleTaskReq (data : Option Json) : Option TaskSingleReq := do
  let data ← objectData data
  match getObjectItem data (text "pid") with
  | some (.number pid) =>
      return ⟨UInt32.ofInt (truncate pid), .zero 32 nameSize_pos⟩
  | some _ => none
  | none =>
      let name ← stringItem data (text "name")
      return ⟨0, strncpy 32 nameSize_pos name⟩

def encodeQueryTaskRsp (alloc : AllocSite → Bool) (rsp : Option TaskDetailInfo) : Option Json := do
  let rsp ← rsp
  let data :=
    addNumberToObject (alloc (.member (text "pid"))) (.object []) (text "pid") rsp.pid.toNat
  let data := addStringToObject (alloc (.member (text "name"))) data (text "name") rsp.name.text
  let data := addStringToObject (alloc (.member (text "param"))) data (text "param") rsp.param.text
  let data :=
    addStringToObject (alloc (.member (text "status"))) data (text "status") rsp.status.text
  replyTree alloc
    (addNumberToObject (alloc (.member (text "heartbeat"))) data (text "heartbeat") rsp.heartbeat)

/-- The user data handed to the callback is the one stored for QUERY_ALL. -/
def processQuerySingleTaskReq (codec : Codec) (call : CallbackSem κ υ σ)
    (alloc : AllocSite → Bool) (srv : MsgServer κ υ) (data : Option Json) (w : σ) :
    HandlerResult κ υ σ :=
  processReq .queryTask .queryAll decodeQuerySingleTaskReq (encodeQueryTaskRsp alloc) codec call
    alloc srv data w

/-- The action is read from the item named `hearbeat`. -/
def decodeTaskActionReq (data : Option Json) : Option TaskActionReq := do
  let data ← objectData data
  let pid ← numberItem data (text "pid")
  let action ← numberItem data (text "hearbeat")
  return ⟨UInt32.ofInt (truncate pid), .zero 32 nameSize_pos, truncate action⟩

/-- The callback gets no reply pointer, so none is looked at. -/
def encodeTaskActionRsp (alloc : AllocSite → Bool) (_ : Option Unit) : Option Json := do
  let root ← createObject (alloc .root)
  return addNumberToObject (alloc (.member (text "ret"))) root (text "ret") 0

def processTaskActionReq (codec : Codec) (call : CallbackSem κ υ σ) (alloc : AllocSite → Bool)
    (srv : MsgServer κ υ) (data : Option Json) (w : σ) : HandlerResult κ υ σ :=
  processReq .taskAction .queryAll decodeTaskActionReq (encodeTaskActionRsp alloc) codec call alloc
    srv data w

def dispatch (codec : Codec) (call : CallbackSem κ υ σ) (alloc : AllocSite → Bool)
    (srv : MsgServer κ υ) (type : Int) (value : Option Json) (w : σ) : HandlerResult κ υ σ :=
  if type = EventType.heartbeat.code then processHeartbeatReq codec call alloc srv value w
  else if type = EventType.queryAll.code then processQueryAllReq codec call alloc srv value w
  else if type = EventType.queryTask.code then
    processQuerySingleTaskReq codec call alloc srv value w
  else if type = EventType.taskAction.code then processTaskActionReq codec call alloc srv value w
  else ⟨.unknownType, none, w, none⟩

def replyFor (codec : Codec) (alloc : AllocSite → Bool) (r : HandlerResult κ υ σ) :
    Option CString :=
  if r.errcode ≠ .succ then createFailMsg codec alloc r.errcode <|> r.replyData
  else r.replyData

def parseServerData (codec : Codec) (call : CallbackSem κ υ σ) (alloc : AllocSite → Bool)
    (outcomes : List WriteOutcome) (srv : MsgServer κ υ) (reqId : UInt32) (data : List UInt8)
    (w : σ) : ServerResult κ υ σ :=
  match codec.parse data with
  | none => ⟨some (-1), [], w, none⟩
  | some root =>
      match numberItem root (text "type") with
      | none => ⟨some (-1), [], w, none⟩
      | some type =>
          let value := getObjectItem root (text "data")
          let r := dispatch codec call alloc srv (truncate type) value w
          match replyFor codec alloc r with
          | none => ⟨some 0, [], r.world, r.invoked⟩
          | some replyData =>
              let replySize := UInt32.ofNat (replyData.strlen + 1)
              let written := writeFrame reqId replySize replyData.bytes outcomes
              ⟨written.ret, written.sent, r.world, r.invoked⟩

structure RecvEnv where
  call : RecvCall
  alloc : AllocSite → Bool
  outcomes : List WriteOutcome

/-- The parser that `procData` calls. A result that a waiting write still holds back counts
as 0 here: nothing is done with it before the write returns. -/
def parsePackage (codec : Codec) (call : CallbackSem κ υ σ) (env : RecvEnv) (srv : MsgServer κ υ)
    (w : σ) (package : Package) : Int × ServerResult κ υ σ :=
  let r := parseServerData codec call env.alloc env.outcomes srv package.reqId
    (package.data.drop dataHeadLen.toNat) w
  (r.ret.getD 0, r)

def recvData (codec : Codec) (call : CallbackSem κ υ σ) (env : RecvEnv) (srv : MsgServer κ υ)
    (w : σ) : Received (ServerResult κ υ σ) :=
  TaskMonitor.recvData (parsePackage codec call env srv w) srv.mRb env.call

end MsgServer

end TaskMonitor
