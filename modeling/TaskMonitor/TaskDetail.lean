import TaskMonitor.PendingRequests
import TaskMonitor.TargetResolution

/-! The details of one task on their way to a client: the callback's reply, the JSON of it, and
what the request's callback is given. -/

namespace TaskMonitor

open CText Cjson

def detailData (info : TaskDetailInfo) : Json :=
  .object [(text "pid", .number info.pid.toNat), (text "name", .string info.name.text),
    (text "param", .string info.param.text), (text "status", .string info.status.text),
    (text "heartbeat", .number info.heartbeat)]

def detailTree (info : TaskDetailInfo) : Json :=
  .object [(text "ret", .number 0), (text "data", detailData info)]

namespace MsgServer

theorem encodeQueryTaskRsp_detailTree (info : TaskDetailInfo) :
    encodeQueryTaskRsp (fun _ => true) (some info) = some (detailTree info) := by
  have name := content_of_noNul info.name.noNul
  have param := content_of_noNul info.param.noNul
  have status := content_of_noNul info.status.noNul
  simp [encodeQueryTaskRsp, replyTree, createObject, addNumberToObject, addStringToObject,
    addItemToObject, name, param, status, detailTree, detailData]

variable {κ υ σ : Type*}

theorem processQuerySingleTaskReq_detail (codec : Codec) (call : CallbackSem κ υ σ)
    (srv : MsgServer κ υ) {data : Option Json} {w w' : σ} {cb : κ} {req : TaskSingleReq}
    {info : TaskDetailInfo} (decoded : decodeQuerySingleTaskReq data = some req)
    (registered : srv.mEventCb .queryTask = some cb)
    (answers : call cb .queryTask req (srv.mUserData .queryAll) w = ⟨.succ, some info, w'⟩) :
    (processQuerySingleTaskReq codec call (fun _ => true) srv data w).errcode = .succ ∧
      (processQuerySingleTaskReq codec call (fun _ => true) srv data w).replyData =
        some (codec.print (detailTree info)) := by
  have encoded := encodeQueryTaskRsp_detailTree info
  simp [processQuerySingleTaskReq, processReq, decoded, registered, answers, encoded]

end MsgServer

namespace MsgClient

/-- The client finds every field of the details, the heartbeat under a key that differs from its
own by letter case. -/
theorem decodeQueryTaskRsp_detailData {info : TaskDetailInfo} (small : info.pid.toNat < 2 ^ 31) :
    decodeQueryTaskRsp (some (detailData info)) = some info := by
  have pid : numberItem (detailData info) (text "pid") = some (info.pid.toNat : ℚ) := rfl
  have name : stringItem (detailData info) (text "name") = some info.name.text := rfl
  have param : stringItem (detailData info) (text "param") = some info.param.text := rfl
  have status : stringItem (detailData info) (text "status") = some info.status.text := rfl
  have heartBeat : numberItem (detailData info) (text "heartBeat") = some info.heartbeat := rfl
  have word : UInt32.ofInt (truncate (info.pid.toNat : ℚ)) = info.pid := by
    have cut := truncate_intCast (n := (info.pid.toNat : Int)) (by omega) (by omega)
    rw [Int.cast_natCast] at cut
    rw [cut]
    apply UInt32.toNat_inj.mp
    simp only [UInt32.ofInt, UInt32.toNat_ofNat']
    omega
  have object : (detailData info).isObject = true := rfl
  simp [decodeQueryTaskRsp, object, pid, name, param, status, heartBeat, word, strncpy_text]

variable {κ : Type*}

theorem parseClientData_detail {codec : Codec} {info : TaskDetailInfo}
    (small : info.pid.toNat < 2 ^ 31) (roundTrips : codec.RoundTrips (detailTree info))
    {client : ClientWorld κ} {reqId : UInt32} {pos : MsgRequest κ} {cb : κ}
    (found : client.client.mRequestList.find? (·.reqId = reqId) = some pos)
    (typed : pos.type = .queryTask) (called : pos.cb = some cb) (during : List (SendArgs κ)) :
    (parseClientData codec client reqId (codec.print (detailTree info)).bytes during).1 = 0 ∧
      calls (parseClientData codec client reqId (codec.print (detailTree info)).bytes
        during).2.2 = [⟨pos.node, cb, 0, some (.queryTask info), .frame reqId⟩] := by
  have answer : getObjectItem (detailTree info) (text "ret") = some (.number 0) := rfl
  have data : getObjectItem (detailTree info) (text "data") = some (detailData info) := rfl
  have zero : (Json.number 0).valueint = 0 := rfl
  have processed : processRspData pos (Json.number 0).valueint (some (detailData info)) =
      (0, some (0, some (.queryTask info))) := by
    have decoded := decodeQueryTaskRsp_detailData small
    simp [processRspData, called, zero, typed, processQueryTaskRsp, processRsp, decoded]
  have settled := parseClientData_settled during roundTrips answer found
  rw [data, processed] at settled
  constructor
  · simp only [parseClientData, show codec.parse _ = _ from roundTrips, answer, found, data,
      processed]
  · rw [settled.calls, callOf.eq_def, called]

end MsgClient

def detailOf (t : TaskObj) (heartbeat : ℚ) : TaskDetailInfo :=
  ⟨UInt32.ofInt t.getTaskPid, strncpy 32 nameSize_pos t.getTaskName,
    strncpy 128 paramSize_pos t.getTaskParam,
    strncpy 32 nameSize_pos (getStatusStr t.getTaskStatus), heartbeat⟩

theorem processGetSingleTask_holder {env : CbEnv} (memory : env.mallocOk = true) {w : CoreWorld}
    (pids : ∀ t ∈ w.registry.taskList, IsPid t.mPid) {p : Int} (range : IsPid p) (nonzero : p ≠ 0)
    {t : TaskObj} (holder : w.registry.taskList.filter (·.getTaskPid = p) = [t])
    (name : CharArray 32) :
    processGetSingleTask env ⟨UInt32.ofInt p, name⟩ w = ⟨.succ, some (detailOf t 0), w⟩ := by
  have found : (selectTask w.registry.taskList (UInt32.ofInt p) name).bind
      (w.registry.taskList[·]?) = some t := by
    rw [selectTask_of_pid pids range nonzero, ← List.find?_eq_bind_findIdx?_getElem?,
      ← List.head?_filter, holder]
    rfl
  rw [processGetSingleTask]
  simp only [found, memory, if_true]
  rfl

theorem querySingleTaskTree_decoded {p : Int} (range : IsPid p) (name : Option Text) :
    ∃ data, MsgClient.querySingleTaskTree (fun _ => true) p name =
        some (.object [(text "type", .number EventType.queryTask.code), (text "data", data)]) ∧
      MsgServer.decodeQuerySingleTaskReq (some data) =
        some ⟨UInt32.ofInt p, .zero 32 nameSize_pos⟩ := by
  have cut := truncate_intCast range.1 range.2
  cases name with
  | none =>
      refine ⟨.object [(text "pid", .number p)], rfl, ?_⟩
      have item : getObjectItem (.object [(text "pid", .number p)]) (text "pid") =
        some (.number p) := rfl
      simp [MsgServer.decodeQuerySingleTaskReq, MsgServer.objectData, Json.isObject, item, cut]
  | some name =>
      refine ⟨.object [(text "pid", .number p), (text "name", .string (content name))], rfl, ?_⟩
      have item : getObjectItem (.object [(text "pid", .number p),
        (text "name", .string (content name))]) (text "pid") = some (.number p) := rfl
      simp [MsgServer.decodeQuerySingleTaskReq, MsgServer.objectData, Json.isObject, item, cut]

def QueryAnswered {κ : Type*} (codec : Codec) (env : CbEnv) (outcomes : List WriteOutcome)
    (srv : MsgServer CoreCb Nat) (w : CoreWorld) (client : ClientWorld κ) (reqId : UInt32)
    (request : CString) (call : Call κ) : Prop :=
  ∃ f : Frame, (MsgServer.parseServerData codec (coreCallbacks env) (fun _ => true) outcomes srv
      reqId request.bytes w).wire = f.encode ∧ f.reqId = reqId ∧
    call ∈ MsgClient.calls (MsgClient.parseClientData codec client f.reqId f.payload []).2.2

theorem detail_sent (codec : Codec) {env : CbEnv} {w : CoreWorld} {data : Option Json}
    {req : TaskSingleReq} {info : TaskDetailInfo}
    (decoded : MsgServer.decodeQuerySingleTaskReq data = some req)
    (answers : processGetSingleTask env req w = ⟨.succ, some info, w⟩) (fd : Int)
    (uninit : EventType → Option Nat) (self : Nat) :
    MsgServer.replyFor codec (fun _ => true)
        (MsgServer.dispatch codec (coreCallbacks env) (fun _ => true)
          (connectionServer fd uninit self) (truncate (EventType.queryTask.code : ℚ)) data w) =
      some (codec.print (detailTree info)) := by
  have handled : MsgServer.dispatch codec (coreCallbacks env) (fun _ => true)
      (connectionServer fd uninit self) (truncate (EventType.queryTask.code : ℚ)) data w =
    MsgServer.processQuerySingleTaskReq codec (coreCallbacks env) (fun _ => true)
      (connectionServer fd uninit self) data w := rfl
  rcases MsgServer.processQuerySingleTaskReq_detail codec (coreCallbacks env)
    (connectionServer fd uninit self) decoded rfl answers with ⟨succ, replied⟩
  rw [handled, MsgServer.replyFor, if_neg (not_not.mpr succ), replied]

/-- Where the answer is a frame that makes one call, that call is what the client gets. -/
theorem queryAnswered_iff {κ : Type*} {codec : Codec} {env : CbEnv} {outcomes : List WriteOutcome}
    {srv : MsgServer CoreCb Nat} {w : CoreWorld} {client : ClientWorld κ} {reqId : UInt32}
    {request : CString} {f : Frame}
    (wire : (MsgServer.parseServerData codec (coreCallbacks env) (fun _ => true) outcomes srv
      reqId request.bytes w).wire = f.encode) (id : f.reqId = reqId) {answer : Call κ}
    (answered : MsgClient.calls (MsgClient.parseClientData codec client f.reqId f.payload []).2.2 =
      [answer]) (call : Call κ) :
    QueryAnswered codec env outcomes srv w client reqId request call ↔ call = answer := by
  rw [QueryAnswered, wire]
  constructor
  · intro reached
    rcases reached with ⟨f', same, _, member⟩
    have frame := (frameCode.encode_cancel (congrArg (· ++ []) same)).1
    rw [← frame, answered] at member
    exact List.mem_singleton.mp member
  · intro same
    subst same
    refine ⟨f, rfl, id, ?_⟩
    rw [answered]
    exact List.mem_singleton_self call

theorem detailOf_inj {t : TaskObj} {heartbeat heartbeat' : ℚ} :
    detailOf t heartbeat = detailOf t heartbeat' ↔ heartbeat = heartbeat' := by simp [detailOf]

theorem pid_of_holder {tasks : List TaskObj} {p : Int} {t : TaskObj}
    (holder : tasks.filter (·.getTaskPid = p) = [t]) : t.getTaskPid = p := by
  have member : t ∈ tasks.filter (·.getTaskPid = p) := by
    rw [holder]
    exact List.mem_singleton_self t
  exact of_decide_eq_true (List.mem_filter.mp member).2

variable {κ κ' υ σ : Type*}

/-- The details that a callback leaves reach the client's callback with code 0, unchanged. -/
theorem detail_round_trip {codec : Codec} {info : TaskDetailInfo}
    (small : info.pid.toNat < 2 ^ 31)
    (roundTrips : ∀ tree, MsgServer.encodeQueryTaskRsp (fun _ => true) (some info) = some tree →
      codec.RoundTrips tree)
    {call : CallbackSem κ υ σ} {srv : MsgServer κ υ} {data : Option Json} {w w' : σ} {cb : κ}
    {req : TaskSingleReq} (decoded : MsgServer.decodeQuerySingleTaskReq data = some req)
    (registered : srv.mEventCb .queryTask = some cb)
    (answers : call cb .queryTask req (srv.mUserData .queryAll) w = ⟨.succ, some info, w'⟩)
    {client : ClientWorld κ'} {reqId : UInt32} {pos : MsgRequest κ'} {cb' : κ'}
    (found : client.client.mRequestList.find? (·.reqId = reqId) = some pos)
    (typed : pos.type = .queryTask) (called : pos.cb = some cb') (during : List (SendArgs κ')) :
    ∃ reply, (MsgServer.processQuerySingleTaskReq codec call (fun _ => true) srv data
        w).replyData = some reply ∧
      (MsgClient.parseClientData codec client reqId reply.bytes during).1 = 0 ∧
      MsgClient.calls (MsgClient.parseClientData codec client reqId reply.bytes during).2.2 =
        [⟨pos.node, cb', 0, some (.queryTask info), .frame reqId⟩] := by
  have trips := roundTrips _ (MsgServer.encodeQueryTaskRsp_detailTree info)
  have replied :=
    MsgServer.processQuerySingleTaskReq_detail codec call srv decoded registered answers
  exact ⟨_, replied.2, MsgClient.parseClientData_detail small trips found typed called during⟩

def queryWaiting : ClientWorld Unit :=
  (MsgClient.sendReqQuerySingleTask textCodec ⟨fun _ => true, 0, true, true, wholeWrites⟩
    (MsgClient.start 5 0) 7 none (some ())).world

def runningTask (heartbeat : UInt32) : TaskObj :=
  ⟨text "cat", text "/bin/cat", text "-u", heartbeat, 7, some (.create 3 heartbeat.toNat), .R, none,
    none, 0⟩

def detailing : CallbackSem Unit Unit Unit
  | _, .queryTask, _, _, w => ⟨.succ, some (detailOf (runningTask 5) 5), w⟩
  | _, _, _, _, w => ⟨.fail, none, w⟩

def detailServer : MsgServer Unit Unit :=
  ((MsgServer.new 5 fun _ => none).registerEventCb .queryTask () ()).1

def queryData : Json := .object [(text "pid", .number 7)]

theorem detail_round_trip_seven :
    ∃ reply, (MsgServer.processQuerySingleTaskReq textCodec detailing (fun _ => true) detailServer
        (some queryData) ()).replyData = some reply ∧
      (MsgClient.parseClientData textCodec queryWaiting 1 reply.bytes []).1 = 0 ∧
      MsgClient.calls (MsgClient.parseClientData textCodec queryWaiting 1 reply.bytes []).2.2 =
        [⟨1, (), 0, some (.queryTask (detailOf (runningTask 5) 5)), .frame 1⟩] := by
  have decoded : MsgServer.decodeQuerySingleTaskReq (some queryData) =
      some ⟨7, .zero 32 nameSize_pos⟩ := rfl
  have found : queryWaiting.client.mRequestList.find? (·.reqId = 1) =
      some ⟨1, 1, .queryTask, some (), 0, 3, some 1⟩ := by decide +kernel
  have roundTrips : ∀ tree, MsgServer.encodeQueryTaskRsp (fun _ => true)
      (some (detailOf (runningTask 5) 5)) = some tree → textCodec.RoundTrips tree := by
    intro tree built
    obtain rfl := Option.some.inj built
    rfl
  exact detail_round_trip (by decide) roundTrips decoded rfl rfl found rfl rfl []

/-- A query for the pid of one task is answered with that task's details exactly when the task's
heartbeat is 0, as the reply says of every task. -/
theorem single_query_iff {codec : Codec} {env : CbEnv} (memory : env.mallocOk = true)
    {w : CoreWorld} (pids : ∀ t ∈ w.registry.taskList, IsPid t.mPid) {p : Int} (positive : 1 ≤ p)
    (range : p < 2 ^ 31) {t : TaskObj}
    (holder : w.registry.taskList.filter (·.getTaskPid = p) = [t]) {name : Option Text}
    {request : Json} (built : MsgClient.querySingleTaskTree (fun _ => true) p name = some request)
    (requestTrips : codec.RoundTrips request)
    (replyTrips : ∀ tree, MsgServer.encodeQueryTaskRsp (fun _ => true) (some (detailOf t 0)) =
      some tree → codec.RoundTrips tree ∧ (codec.print tree).strlen < 2 ^ 31)
    {outcomes : List WriteOutcome} (clean : .error ∉ outcomes) (fd : Int)
    (uninit : EventType → Option Nat) (self : Nat) {reqId : UInt32}
    (returned : (MsgServer.parseServerData codec (coreCallbacks env) (fun _ => true) outcomes
      (connectionServer fd uninit self) reqId (codec.print request).bytes w).ret ≠ none)
    {client : ClientWorld κ} {pos : MsgRequest κ} {cb : κ}
    (found : client.client.mRequestList.find? (·.reqId = reqId) = some pos)
    (typed : pos.type = .queryTask) (called : pos.cb = some cb) :
    QueryAnswered codec env outcomes (connectionServer fd uninit self) w client reqId
        (codec.print request)
        ⟨pos.node, cb, 0, some (.queryTask (detailOf t t.getTaskHeartbeat)), .frame reqId⟩ ↔
      t.mHeartbeat = 0 := by
  have isPid : IsPid p := ⟨by omega, range⟩
  rcases replyTrips _ (MsgServer.encodeQueryTaskRsp_detailTree _) with ⟨trips, short⟩
  rcases querySingleTaskTree_decoded isPid name with ⟨data, tree, decoded⟩
  rw [built] at tree
  obtain rfl := Option.some.inj tree
  have held := pid_of_holder holder
  have small : (detailOf t 0).pid.toNat < 2 ^ 31 := by
    have word : (detailOf t 0).pid = UInt32.ofInt p := congrArg UInt32.ofInt held
    rw [word]
    simp only [UInt32.ofInt, UInt32.toNat_ofNat']
    omega
  have answers := processGetSingleTask_holder memory pids isPid (by omega) holder
    (.zero 32 nameSize_pos)
  have sent := detail_sent codec decoded answers fd uninit self
  have wire := MsgServer.parseServerData_wire requestTrips rfl sent short clean returned
  have answered := (MsgClient.parseClientData_detail small trips found typed called []).2
  -- the details that come back have heartbeat 0, so they are the right ones for 0 alone
  rw [queryAnswered_iff wire rfl answered]
  simp only [Call.mk.injEq, Option.some.injEq, RspData.queryTask.injEq, true_and, and_true]
  rw [detailOf_inj, TaskObj.getTaskHeartbeat, Nat.cast_eq_zero, ← UInt32.toNat_inj]
  rfl

def runningWorld (heartbeat : UInt32) : CoreWorld := ⟨⟨[runningTask heartbeat], 1⟩, []⟩

def queryRequest : Json := .object [(text "type", .number 2), (text "data", queryData)]

/-- The answer to a query for a task without a heartbeat is complete. -/
theorem single_query_iff_zero :
    QueryAnswered textCodec plainEnv wholeWrites coreServer (runningWorld 0) queryWaiting 1
      (textCodec.print queryRequest)
      ⟨1, (), 0, some (.queryTask (detailOf (runningTask 0) 0)), .frame 1⟩ := by
  have found : queryWaiting.client.mRequestList.find? (·.reqId = 1) =
      some ⟨1, 1, .queryTask, some (), 0, 3, some 1⟩ := by decide +kernel
  have replyTrips : ∀ tree, MsgServer.encodeQueryTaskRsp (fun _ => true)
      (some (detailOf (runningTask 0) 0)) = some tree →
        textCodec.RoundTrips tree ∧ (textCodec.print tree).strlen < 2 ^ 31 := by
    intro tree built
    obtain rfl := Option.some.inj built
    exact ⟨rfl, by decide +kernel⟩
  have memory : plainEnv.mallocOk = true := rfl
  have pids : ∀ t ∈ (runningWorld 0).registry.taskList, IsPid t.mPid := by decide
  have holder : (runningWorld 0).registry.taskList.filter (·.getTaskPid = 7) = [runningTask 0] := by
    decide
  have built : MsgClient.querySingleTaskTree (fun _ => true) 7 none = some queryRequest := rfl
  have requestTrips : textCodec.RoundTrips queryRequest := rfl
  have clean : WriteOutcome.error ∉ wholeWrites := by decide
  have returned : (MsgServer.parseServerData textCodec (coreCallbacks plainEnv) (fun _ => true)
      wholeWrites (connectionServer 5 (fun _ => none) 0) 1 (textCodec.print queryRequest).bytes
      (runningWorld 0)).ret ≠ none := by decide +kernel
  exact (single_query_iff memory pids (by decide) (by decide) holder built requestTrips replyTrips
    clean 5 (fun _ => none) 0 returned found rfl rfl).mpr rfl

theorem runningDetail_short :
    (textCodec.print (detailTree (detailOf (runningTask 5) 0))).strlen < 2 ^ 31 := by
  decide +kernel

/-- A task with heartbeat 5 comes back with heartbeat 0. -/
theorem heartbeat_comes_back_zero :
    (runningWorld 5).registry.taskList.filter (·.getTaskPid = 7) = [runningTask 5] ∧
      ¬ QueryAnswered textCodec plainEnv wholeWrites coreServer (runningWorld 5) queryWaiting 1
        (textCodec.print queryRequest)
        ⟨1, (), 0, some (.queryTask (detailOf (runningTask 5) 5)), .frame 1⟩ := by
  have wire : (MsgServer.parseServerData textCodec (coreCallbacks plainEnv) (fun _ => true)
      wholeWrites coreServer 1 (textCodec.print queryRequest).bytes (runningWorld 5)).wire =
      (MsgServer.replyFrame 1 (textCodec.print (detailTree (detailOf (runningTask 5) 0)))
        runningDetail_short).encode := by
    decide +kernel
  have found : queryWaiting.client.mRequestList.find? (·.reqId = 1) =
      some ⟨1, 1, .queryTask, some (), 0, 3, some 1⟩ := by decide +kernel
  have small : (detailOf (runningTask 5) 0).pid.toNat < 2 ^ 31 := by decide
  have trips : textCodec.RoundTrips (detailTree (detailOf (runningTask 5) 0)) := rfl
  have answered := (MsgClient.parseClientData_detail small trips found rfl rfl []).2
  constructor
  · decide
  · rw [queryAnswered_iff wire rfl answered]
    simp [detailOf_inj]

end TaskMonitor
