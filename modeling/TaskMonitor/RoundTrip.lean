import TaskMonitor.ServerReply
import TaskMonitor.MsgClient
import TaskMonitor.TaskCore

/-! What each end's decoders find in the messages that the other end's encoders build. -/

namespace TaskMonitor

open CText Cjson

def dataItem (codec : Codec) (message : CString) : Option Json := do
  let root ← codec.parse message.bytes
  getObjectItem root (text "data")

theorem data_of_headed (ok : Bool) {key : Text} (d : ℚ) (data : Json)
    (differs : sameKey key (text "data") = false) :
    getObjectItem
      (addItemToObject (addNumberToObject ok (.object []) key d) (text "data") (some data))
      (text "data") = some data := by
  have head : getObjectItem (addNumberToObject ok (.object []) key d) (text "data") = none :=
    getObjectItem_addNumberToObject_ne rfl differs ok d
  have object := isObject_addNumberToObject ok (.object []) key d
  rw [getObjectItem_addItemToObject object, head, sameKey_self]
  rfl

theorem getObjectItem_pair (ok ok' : Bool) (key key' other : Text) (d d' : ℚ)
    (differs : sameKey key other = false) (differs' : sameKey key' other = false) :
    getObjectItem
      (addNumberToObject ok' (addNumberToObject ok (.object []) key d) key' d') other = none := by
  have first : getObjectItem (addNumberToObject ok (.object []) key d) other = none :=
    getObjectItem_addNumberToObject_ne rfl differs ok d
  have object := isObject_addNumberToObject ok (.object []) key d
  rw [getObjectItem_addNumberToObject_ne object differs', first]

namespace MsgClient

theorem requestTree_data {alloc : ReqSite → Bool} {type : EventType} {data tree : Json}
    (built : requestTree alloc type data = some tree) :
    getObjectItem tree (text "data") = some data := by
  rw [requestTree, createObject] at built
  split at built
  · simp only [Option.bind_eq_bind, Option.bind_some] at built
    split at built
    · obtain rfl := Option.some.inj built
      exact data_of_headed _ _ data (by decide)
    · cases built
  · cases built

end MsgClient

namespace MsgServer

variable {κ υ σ : Type*}

theorem replyTree_data {alloc : AllocSite → Bool} {data tree : Json}
    (built : replyTree alloc data = some tree) :
    getObjectItem tree (text "data") = some data := by
  rw [replyTree, createObject] at built
  split at built
  · simp only [Option.bind_eq_bind, Option.bind_some] at built
    split at built
    · obtain rfl := Option.some.inj built
      exact data_of_headed _ _ data (by decide)
    · cases built
  · cases built

theorem dataItem_print {codec : Codec} {tree : Json} (roundTrips : codec.RoundTrips tree) :
    dataItem codec (codec.print tree) = getObjectItem tree (text "data") := by
  rw [dataItem, show codec.parse _ = _ from roundTrips]
  rfl

theorem objectData_or (data : Json) :
    objectData (some data) = some data ∨ objectData (some data) = none := by
  cases shape : data.isObject <;> simp [objectData, shape]

theorem undecoded_of_missing {data : Json} (missing : getObjectItem data (text "hearbeat") = none) :
    decodeHeartbeatReq (some data) = none ∧ decodeTaskActionReq (some data) = none := by
  have unread : numberItem data (text "hearbeat") = none := by rw [numberItem, missing]
  rw [decodeHeartbeatReq, decodeTaskActionReq]
  rcases objectData_or data with found | found
  · simp [found, unread]
  · simp [found]

theorem processReq_of_undecoded {type usrType : EventType}
    {decode : Option Json → Option (Req type)} {encode : Option (Rsp type) → Option Json}
    {codec : Codec} {call : CallbackSem κ υ σ} {alloc : AllocSite → Bool} {srv : MsgServer κ υ}
    {data : Option Json} {w : σ} (undecoded : decode data = none) :
    processReq type usrType decode encode codec call alloc srv data w =
      ⟨.parse, none, w, none⟩ := by
  rw [processReq]
  rw [undecoded]

theorem processHeartbeatReq_rejects (codec : Codec) (call : CallbackSem κ υ σ)
    (alloc : AllocSite → Bool) (srv : MsgServer κ υ) (w : σ) {data : Json}
    (missing : getObjectItem data (text "hearbeat") = none) :
    processHeartbeatReq codec call alloc srv (some data) w = ⟨.parse, none, w, none⟩ :=
  processReq_of_undecoded (undecoded_of_missing missing).1

theorem processTaskActionReq_rejects (codec : Codec) (call : CallbackSem κ υ σ)
    (alloc : AllocSite → Bool) (srv : MsgServer κ υ) (w : σ) {data : Json}
    (missing : getObjectItem data (text "hearbeat") = none) :
    processTaskActionReq codec call alloc srv (some data) w = ⟨.parse, none, w, none⟩ :=
  processReq_of_undecoded (undecoded_of_missing missing).2

theorem processReq_replyData {type usrType : EventType} {decode : Option Json → Option (Req type)}
    {encode : Option (Rsp type) → Option Json} {codec : Codec} {call : CallbackSem κ υ σ}
    {alloc : AllocSite → Bool} {srv : MsgServer κ υ} {data : Option Json} {w : σ} {reply : CString}
    (printed : (processReq type usrType decode encode codec call alloc srv data w).replyData =
      some reply) :
    ∃ req cb tree, decode data = some req ∧ srv.mEventCb type = some cb ∧
      encode (call cb type req (srv.mUserData usrType) w).reply = some tree ∧
      reply = codec.print tree := by
  rw [processReq] at printed
  cases decoded : decode data with
  | none => simp [decoded] at printed
  | some req =>
      cases registered : srv.mEventCb type with
      | none => simp [decoded, registered] at printed
      | some cb =>
          simp only [decoded, registered] at printed
          split at printed
          · cases printed
          · cases encoded : encode (call cb type req (srv.mUserData usrType) w).reply with
            | none => simp [encoded] at printed
            | some tree =>
                simp only [encoded] at printed
                split at printed
                · exact ⟨req, cb, tree, rfl, rfl, encoded, (Option.some.inj printed).symm⟩
                · cases printed

theorem encodeTaskList_array {alloc : AllocSite → Bool} {items : List Json} {i : Nat}
    {infos : List TaskSimpleInfo} {tree : Json}
    (built : encodeTaskList alloc (.array items) i infos = some tree) :
    ∃ items', tree = .array items' := by
  induction infos generalizing items i with
  | nil => exact ⟨items, (Option.some.inj built).symm⟩
  | cons info infos ih =>
      rw [encodeTaskList] at built
      rcases Option.bind_eq_some_iff.mp built with ⟨item, _, rest⟩
      exact ih rest

theorem encodeQueryAllRsp_data {alloc : AllocSite → Bool} {rsp : TaskAllRsp} {tree : Json}
    (built : encodeQueryAllRsp alloc (some rsp) = some tree) :
    ∃ items, getObjectItem tree (text "data") = some (.array items) := by
  rw [encodeQueryAllRsp] at built
  rcases Option.bind_eq_some_iff.mp built with ⟨_, same, rest⟩
  obtain rfl := Option.some.inj same
  rcases Option.bind_eq_some_iff.mp rest with ⟨data, listed, headed⟩
  rcases encodeTaskList_array listed with ⟨items, rfl⟩
  exact ⟨items, replyTree_data headed⟩

end MsgServer

variable {κ υ σ : Type*}

/-- The request for `(p, h)` reaches the callback, as exactly `(p, h)`. -/
def RequestHandedOver (codec : Codec) (call : CallbackSem κ υ σ) (alloc : AllocSite → Bool)
    (srv : MsgServer κ υ) (w : σ) (p : Int) (h : ℚ) : Prop :=
  ∃ tree cb usrData ret, MsgClient.hearbeatTree (fun _ => true) p h = some tree ∧
    (MsgServer.processHeartbeatReq codec call alloc srv
        (dataItem codec (codec.print tree)) w).invoked =
      some ⟨cb, .heartbeat, (⟨UInt32.ofInt p, h⟩ : HeartbeatReq), usrData, ret⟩

def ReplyHandedOver (codec : Codec) (reply : CString) (rsp : HeartbeatRsp) : Prop :=
  MsgClient.processHeartbeatRsp EventErrCode.succ.code (dataItem codec reply) =
    (0, some ((EventErrCode.succ.code : Int), some (RspData.heartbeat rsp)))

/-- The encoders write `heartbeat`; the decoders look for `hearbeat` and for `heatbeat`. No
request gets through, and no reply to one that did. -/
theorem heartbeat_never_handed_over (codec : Codec) (call : CallbackSem κ υ σ)
    (alloc : AllocSite → Bool) (srv : MsgServer κ υ) (w : σ) :
    (∀ p h, (∀ tree, MsgClient.hearbeatTree (fun _ => true) p h = some tree →
        codec.RoundTrips tree) →
      ¬ RequestHandedOver codec call alloc srv w p h) ∧
    (∀ data reply rsp,
      (∀ tree, MsgServer.encodeHeartbeatRsp alloc (some rsp) = some tree → codec.RoundTrips tree) →
      (∀ cb req, (call cb .heartbeat req (srv.mUserData .heartbeat) w).reply = some rsp) →
      (MsgServer.processHeartbeatReq codec call alloc srv data w).replyData = some reply →
      ¬ ReplyHandedOver codec reply rsp) := by
  constructor
  · intro p h roundTrips reached
    rcases reached with ⟨tree, cb, usrData, ret, built, handed⟩
    have arrived := MsgServer.dataItem_print (roundTrips tree built)
    rw [MsgClient.hearbeatTree] at built
    rw [arrived, MsgClient.requestTree_data built] at handed
    have missing := getObjectItem_pair true true (text "pid") (text "heartbeat") (text "hearbeat")
      p h (by decide) (by decide)
    rw [MsgServer.processHeartbeatReq_rejects codec call alloc srv w missing] at handed
    cases handed
  · intro data reply rsp roundTrips answers printed handed
    rcases MsgServer.processReq_replyData printed with ⟨req, cb, tree, _, _, encoded, rfl⟩
    rw [answers cb req] at encoded
    rw [ReplyHandedOver, MsgServer.dataItem_print (roundTrips tree encoded),
      MsgServer.replyTree_data encoded] at handed
    have missing := getObjectItem_pair (alloc (.member (text "pid")))
      (alloc (.member (text "heartbeat"))) (text "pid") (text "heartbeat") (text "heatbeat")
      rsp.pid.toNat rsp.heatbeat (by decide) (by decide)
    simp [MsgClient.processHeartbeatRsp, MsgClient.processRsp, MsgClient.decodeHeartbeatRsp,
      missing] at handed

def heartbeatReply : CString :=
  textCodec.print (.object [(text "ret", .number 0),
    (text "data", .object [(text "pid", .number 7), (text "heartbeat", .number 5)])])

theorem heartbeat_never_handed_over_seven :
    ¬ RequestHandedOver textCodec answering (fun _ => true) heartbeatServer () 7 5 ∧
      ¬ ReplyHandedOver textCodec heartbeatReply ⟨7, 5⟩ := by
  have never := heartbeat_never_handed_over textCodec answering (fun _ => true) heartbeatServer ()
  constructor
  · apply never.1 7 5
    intro tree built
    obtain rfl := Option.some.inj built
    rfl
  · refine never.2 (some acceptedData) heartbeatReply ⟨7, 5⟩ ?_ (fun _ _ => rfl) rfl
    intro tree built
    obtain rfl := Option.some.inj built
    rfl

/-- The request of a client with pid 7 and interval 5, printed and parsed without loss, is
turned away. -/
theorem heartbeat_seven_not_handed_over :
    (∀ tree, MsgClient.hearbeatTree (fun _ => true) 7 5 = some tree → textCodec.RoundTrips tree) ∧
      ¬ RequestHandedOver textCodec answering (fun _ => true) heartbeatServer () 7 5 := by
  constructor
  · intro tree built
    obtain rfl := Option.some.inj built
    rfl
  · intro reached
    rcases reached with ⟨tree, cb, usrData, ret, built, handed⟩
    obtain rfl := Option.some.inj built
    cases handed

def ActionHandedOver (codec : Codec) (env : CbEnv) (alloc : AllocSite → Bool)
    (srv : MsgServer CoreCb Nat) (w : CoreWorld) (p a : Int) : Prop :=
  ∃ tree cb name usrData ret, MsgClient.taskActionTree (fun _ => true) p a = some tree ∧
    (MsgServer.processTaskActionReq codec (coreCallbacks env) alloc srv
        (dataItem codec (codec.print tree)) w).invoked =
      some ⟨cb, .taskAction, (⟨UInt32.ofInt p, name, a⟩ : TaskActionReq), usrData, ret⟩

/-- The encoder writes `action` and the decoder looks for `hearbeat`: no action gets through,
whatever the registry, and no task is touched. -/
theorem action_never_handed_over (codec : Codec) (env : CbEnv) (alloc : AllocSite → Bool)
    (srv : MsgServer CoreCb Nat) (w : CoreWorld) (p a : Int)
    (roundTrips : ∀ tree, MsgClient.taskActionTree (fun _ => true) p a = some tree →
      codec.RoundTrips tree) :
    ¬ ActionHandedOver codec env alloc srv w p a ∧
      ∀ tree, MsgClient.taskActionTree (fun _ => true) p a = some tree →
        (MsgServer.processTaskActionReq codec (coreCallbacks env) alloc srv
          (dataItem codec (codec.print tree)) w).world = w := by
  have rejected (tree : Json) (built : MsgClient.taskActionTree (fun _ => true) p a = some tree) :
      MsgServer.processTaskActionReq codec (coreCallbacks env) alloc srv
        (dataItem codec (codec.print tree)) w = ⟨.parse, none, w, none⟩ := by
    have arrived := MsgServer.dataItem_print (roundTrips tree built)
    rw [MsgClient.taskActionTree] at built
    rw [arrived, MsgClient.requestTree_data built]
    exact MsgServer.processTaskActionReq_rejects codec (coreCallbacks env) alloc srv w
      (getObjectItem_pair true true (text "pid") (text "action") (text "hearbeat") p a (by decide)
        (by decide))
  constructor
  · intro reached
    rcases reached with ⟨tree, cb, name, usrData, ret, built, handed⟩
    rw [rejected tree built] at handed
    cases handed
  · intro tree built
    rw [rejected tree built]

def oneTask : CoreWorld :=
  ⟨⟨[⟨text "cat", text "/bin/cat", [], 5, 7, some ⟨3, 5, some 3⟩, .R, none, none, 0⟩], 1⟩, []⟩

def coreServer : MsgServer CoreCb Nat :=
  TaskObjClient.registerCallbacks (.new 5 fun _ => none) 0

def plainEnv : CbEnv := ⟨true, 8, fun _ => ⟨7, 5⟩⟩

def wholeWrites : List WriteOutcome := [.count 4, .count 4, .count 999]

theorem action_never_handed_over_restart :
    ¬ ActionHandedOver textCodec plainEnv (fun _ => true) coreServer oneTask 7 taskActionRestart ∧
      ∀ tree, MsgClient.taskActionTree (fun _ => true) 7 taskActionRestart = some tree →
        (MsgServer.processTaskActionReq textCodec (coreCallbacks plainEnv) (fun _ => true)
          coreServer (dataItem textCodec (textCodec.print tree)) oneTask).world = oneTask := by
  refine action_never_handed_over textCodec plainEnv (fun _ => true) coreServer oneTask 7
    taskActionRestart ?_
  intro tree built
  obtain rfl := Option.some.inj built
  rfl

/-- A restart for the task of pid 7 is turned away. -/
theorem restart_seven_not_handed_over :
    (∀ tree, MsgClient.taskActionTree (fun _ => true) 7 taskActionRestart = some tree →
        textCodec.RoundTrips tree) ∧
      ¬ ActionHandedOver textCodec plainEnv (fun _ => true) coreServer oneTask 7
        taskActionRestart := by
  constructor
  · intro tree built
    obtain rfl := Option.some.inj built
    rfl
  · intro reached
    rcases reached with ⟨tree, cb, name, usrData, ret, built, handed⟩
    obtain rfl := Option.some.inj built
    cases handed

def ListingHandedOver (codec : Codec) (reply : CString) (rsp : TaskAllRsp) : Prop :=
  MsgClient.processQueryAllRsp EventErrCode.succ.code (dataItem codec reply) =
    (0, some ((EventErrCode.succ.code : Int), some (RspData.queryAll rsp)))

/-- The server sends the listing as an array and the client asks for a raw item: it turns every
listing away without a call, the empty one too. -/
theorem listing_never_handed_over {codec : Codec} {call : CallbackSem κ υ σ}
    {alloc : AllocSite → Bool} {srv : MsgServer κ υ} {data : Option Json} {w : σ} {cb : κ}
    {rsp : TaskAllRsp} {reply : CString}
    (roundTrips : ∀ tree, MsgServer.encodeQueryAllRsp alloc (some rsp) = some tree →
      codec.RoundTrips tree)
    (registered : srv.mEventCb .queryAll = some cb)
    (answers : (call cb .queryAll () (srv.mUserData .queryAll) w).reply = some rsp)
    (printed : (MsgServer.processQueryAllReq codec call alloc srv data w).replyData = some reply) :
    MsgClient.processQueryAllRsp EventErrCode.succ.code (dataItem codec reply) = (-1, none) ∧
      ¬ ListingHandedOver codec reply rsp := by
  rcases MsgServer.processReq_replyData printed with ⟨req, cb', tree, _, found, encoded, rfl⟩
  rw [registered] at found
  obtain rfl := Option.some.inj found
  have answered : (call cb .queryAll req (srv.mUserData .queryAll) w).reply = some rsp := answers
  rw [answered] at encoded
  rcases MsgServer.encodeQueryAllRsp_data encoded with ⟨items, array⟩
  have refused : MsgClient.processQueryAllRsp EventErrCode.succ.code
      (dataItem codec (codec.print tree)) = (-1, none) := by
    rw [MsgServer.dataItem_print (roundTrips tree encoded), array]
    rfl
  constructor
  · exact refused
  · intro handed
    rw [ListingHandedOver, refused] at handed
    cases handed

def oneListed : TaskAllRsp := ⟨1, listing 1 oneTask.registry.taskList, rfl⟩

def listingReply : CString :=
  textCodec.print (.object [(text "ret", .number 0), (text "data", .array [.object
    [(text "name", .string (text "cat")), (text "pid", .number 7),
      (text "status", .string (text "running"))]])])

theorem listing_never_handed_over_one :
    MsgClient.processQueryAllRsp EventErrCode.succ.code (dataItem textCodec listingReply) =
        (-1, none) ∧ ¬ ListingHandedOver textCodec listingReply oneListed := by
  have roundTrips : ∀ tree, MsgServer.encodeQueryAllRsp (fun _ => true) (some oneListed) =
      some tree → textCodec.RoundTrips tree := by
    intro tree built
    obtain rfl := Option.some.inj built
    rfl
  have registered : coreServer.mEventCb .queryAll = some .processGetAllTask := rfl
  have answers : (coreCallbacks plainEnv .processGetAllTask .queryAll ()
      (coreServer.mUserData .queryAll) oneTask).reply = some oneListed := rfl
  have printed : (MsgServer.processQueryAllReq textCodec (coreCallbacks plainEnv) (fun _ => true)
      coreServer none oneTask).replyData = some listingReply := rfl
  exact listing_never_handed_over roundTrips registered answers printed

/-- The listing of a daemon with one running task is printed and parsed without loss, and the
client turns it away. -/
theorem one_task_not_listed :
    (MsgServer.processQueryAllReq textCodec (coreCallbacks plainEnv) (fun _ => true) coreServer none
        oneTask).replyData = some listingReply ∧
      (∀ tree, MsgServer.encodeQueryAllRsp (fun _ => true) (some oneListed) = some tree →
        textCodec.RoundTrips tree) ∧
      ¬ ListingHandedOver textCodec listingReply oneListed := by
  refine ⟨rfl, ?_, ?_⟩
  · intro tree built
    obtain rfl := Option.some.inj built
    rfl
  · intro handed
    cases handed

end TaskMonitor
