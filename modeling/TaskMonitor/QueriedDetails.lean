import TaskMonitor.Conversations
import TaskMonitor.TaskDetail

/-! A query for a task on its way through the daemon, while other clients and the clock change the
registry. -/

namespace TaskMonitor

open CText Cjson MsgServer MsgClient StepMachine

def detailsAt (mallocOk : Bool) (tasks : List TaskObj) (p : Int) :
    EventErrCode × Option TaskDetailInfo :=
  match tasks.find? (·.getTaskPid = p) with
  | none => (.notFound, none)
  | some t => if mallocOk then (.succ, some (detailOf t 0)) else (.mem, none)

theorem detailsAt_cases (mallocOk : Bool) (tasks : List TaskObj) (p : Int) :
    (∃ code, code ≠ .succ ∧ detailsAt mallocOk tasks p = (code, none)) ∨
      ∃ t, t.getTaskPid = p ∧ detailsAt mallocOk tasks p = (.succ, some (detailOf t 0)) := by
  rw [detailsAt]
  split
  · exact .inl ⟨.notFound, by decide, rfl⟩
  · rename_i t found
    cases mallocOk with
    | false => exact .inl ⟨.mem, by decide, rfl⟩
    | true => exact .inr ⟨t, by simpa using List.find?_some found, rfl⟩

theorem processGetSingleTask_details (env : CbEnv) {w : CoreWorld}
    (pids : ∀ t ∈ w.registry.taskList, IsPid t.mPid) {p : Int} (range : IsPid p) (nonzero : p ≠ 0)
    (name : CharArray 32) :
    processGetSingleTask env ⟨UInt32.ofInt p, name⟩ w =
      ⟨(detailsAt env.mallocOk w.registry.taskList p).1,
        (detailsAt env.mallocOk w.registry.taskList p).2, w⟩ := by
  have selected : (selectTask w.registry.taskList (UInt32.ofInt p) name).bind
      (w.registry.taskList[·]?) = w.registry.taskList.find? (·.getTaskPid = p) := by
    rw [selectTask_of_pid pids range nonzero, ← List.find?_eq_bind_findIdx?_getElem?]
  rw [processGetSingleTask, detailsAt]
  simp only [selected]
  cases w.registry.taskList.find? (·.getTaskPid = p) with
  | none => rfl
  | some t => cases env.mallocOk <;> rfl

def detailsTree : EventErrCode × Option TaskDetailInfo → Json
  | (_, some info) => detailTree info
  | (code, none) => retTree true code

theorem query_handled (codec : Codec) (env : CbEnv) (fd : Int) (uninit : EventType → Option Nat)
    (self : Nat) {w : CoreWorld} (pids : ∀ t ∈ w.registry.taskList, IsPid t.mPid) {p : Int}
    (range : IsPid p) (nonzero : p ≠ 0) {data : Json} {name : CharArray 32}
    (decoded : decodeQuerySingleTaskReq (some data) = some ⟨UInt32.ofInt p, name⟩) :
    let r := processQuerySingleTaskReq codec (coreCallbacks env) (fun _ => true)
      (connectionServer fd uninit self) (some data) w
    r.world = w ∧ answerTree (coreCallbacks env) r w =
      some (detailsTree (detailsAt env.mallocOk w.registry.taskList p)) := by
  intro r
  have answers := processGetSingleTask_details env pids range nonzero name
  have called : coreCallbacks env .processGetSingleTask .queryTask
      (⟨UInt32.ofInt p, name⟩ : TaskSingleReq)
      ((connectionServer fd uninit self).mUserData .queryAll) w =
    processGetSingleTask env ⟨UInt32.ofInt p, name⟩ w := rfl
  have registered := (connectionServer_registered fd uninit self).1
  rw [answers] at called
  simp only [r, processQuerySingleTaskReq, processReq, decoded, registered, called]
  rcases detailsAt_cases env.mallocOk w.registry.taskList p with
    ⟨code, fails, answer⟩ | ⟨t, _, answer⟩
  · rw [answer] at called ⊢
    rw [if_pos fails]
    exact ⟨rfl, if_neg fails⟩
  · rw [answer] at called ⊢
    rw [if_neg (not_not.mpr rfl), encodeQueryTaskRsp_detailTree]
    refine ⟨rfl, ?_⟩
    simp only [answerTree, if_true, Option.bind_some, called]
    exact encodeQueryTaskRsp_detailTree _

namespace MsgClient

variable {κ : Type*}

theorem mem_callsFor_args {codec : Codec} {req : MsgRequest κ} {f : Frame} {c : Call κ}
    (called : c ∈ callsFor codec req f) {root retval : Json}
    (parsed : codec.parse f.payload = some root)
    (found : getObjectItem root (text "ret") = some retval) :
    req.cb = some c.cb ∧ (processRspData req retval.valueint
      (getObjectItem root (text "data"))).2 = some (c.ret, c.data) := by
  simp only [callsFor, parsed, found] at called
  rcases mem_callOf called with ⟨_, cb, _, args⟩
  exact ⟨cb, args⟩

theorem callsFor_code {codec : Codec} {req : MsgRequest κ} {f : Frame} {code : EventErrCode}
    (parsed : codec.parse f.payload = some (retTree true code)) {c : Call κ}
    (called : c ∈ callsFor codec req f) (fails : code ≠ .succ) :
    c.ret = code.code ∧ c.data = none := by
  have told : getObjectItem (retTree true code) (text "ret") = some (.number code.code) := by
    cases code <;> rfl
  have value : (Json.number code.code).valueint = code.code := by cases code <;> rfl
  have nonzero : (code.code : Int) ≠ 0 := by
    intro zero
    exact fails ((EventErrCode.code_eq_zero_iff code).mp (Int.ofNat_eq_zero.mp zero))
  rcases mem_callsFor_args called parsed told with ⟨cb, args⟩
  rw [value, processRspData, cb, if_neg (by simp), if_pos nonzero] at args
  rcases Prod.mk.inj (Option.some.inj args) with ⟨ret, data⟩
  exact ⟨ret.symm, data.symm⟩

theorem query_called {codec : Codec} {req : MsgRequest κ} {f : Frame} {mallocOk : Bool}
    {tasks : List TaskObj} {p : Int} (positive : 1 ≤ p) (range : p < 2 ^ 31)
    (parsed : codec.parse f.payload = some (detailsTree (detailsAt mallocOk tasks p)))
    (typed : req.type = .queryTask) {c : Call κ} (called : c ∈ callsFor codec req f) :
    c.ret = (detailsAt mallocOk tasks p).1.code ∧
      c.data = (detailsAt mallocOk tasks p).2.map .queryTask := by
  rcases detailsAt_cases mallocOk tasks p with ⟨code, fails, answer⟩ | ⟨t, pid, answer⟩
  · rw [answer] at parsed ⊢
    exact callsFor_code parsed called fails
  · rw [answer] at parsed ⊢
    have parsed : codec.parse f.payload = some (detailTree (detailOf t 0)) := parsed
    have small : (detailOf t 0).pid.toNat < 2 ^ 31 := by
      have word : (detailOf t 0).pid = UInt32.ofInt p := congrArg UInt32.ofInt pid
      rw [word]
      simp only [UInt32.ofInt, UInt32.toNat_ofNat']
      omega
    have told : getObjectItem (detailTree (detailOf t 0)) (text "ret") = some (.number 0) := rfl
    have data : getObjectItem (detailTree (detailOf t 0)) (text "data") =
        some (detailData (detailOf t 0)) := rfl
    have zero : (Json.number 0).valueint = 0 := rfl
    have decoded := decodeQueryTaskRsp_detailData small
    rcases mem_callsFor_args called parsed told with ⟨cb, args⟩
    rw [data, zero, processRspData, cb, if_neg (by simp), if_neg (by simp), typed] at args
    simp only [processQueryTaskRsp, processRsp, decoded] at args
    rcases Prod.mk.inj (Option.some.inj args) with ⟨ret, info⟩
    exact ⟨ret.symm, info.symm⟩

end MsgClient

namespace Dialogue

variable {ι κ : Type*} [DecidableEq ι] {codec : Codec}

abbrev daemonClients (fd : ι → Int) (base : ι → UInt32) (uninit : ι → EventType → Option Nat)
    (self : ι → Nat) (w : CoreWorld) : Together ι (Dialogue κ CoreCb Nat CoreWorld) CoreWorld :=
  newClients fd base (fun i => connectionServer (fd i) (uninit i) (self i)) w

/-- A step on sockets that work and with memory for the replies. Pids are in their range. -/
structure DaemonStep (codec : Codec) (s : Together ι (Dialogue κ CoreCb Nat CoreWorld) CoreWorld)
    (e : ι × DialogueEvent κ CbEnv CoreWorld) : Prop where
  sound : SoundStep codec coreCallbacks s e
  serves : Serves codec coreCallbacks (s.member (sharing codec coreCallbacks) e.1) e.2
  pids : ∀ t ∈ s.shared.registry.taskList, IsPid t.mPid

variable {fd : ι → Int} {base : ι → UInt32} {uninit : ι → EventType → Option Nat} {self : ι → Nat}
  {w : CoreWorld} {es : List (ι × DialogueEvent κ CbEnv CoreWorld)}

/-- A query for a pid, of any client, while the others and the clock go on: its callback is told
what the registry held at one moment between the query and the answer, and the query changes
nothing. -/
theorem details_linearised
    (meets : (conversations codec coreCallbacks).AllSteps (DaemonStep codec)
      (daemonClients fd base uninit self w) es) {p : Int} (positive : 1 ≤ p) (range : p < 2 ^ 31)
    {name : Option Text} {request : Json}
    (built : querySingleTaskTree (fun _ => true) p name = some request)
    (trips : codec.RoundTrips request) {i : ι} {package : Package} {calls : List (Call κ)}
    {c : Call κ} (answered : (i, .answered package calls) ∈
      (conversations codec coreCallbacks).trace (daemonClients fd base uninit self w) es)
    (called : c ∈ calls)
    (query : ∀ reqId a, (i, .asked c.node reqId a) ∈
      (conversations codec coreCallbacks).trace (daemonClients fd base uninit self w) es →
      a.data = (codec.print request).bytes ∧ a.reqType = .queryTask) :
    let S := conversations codec coreCallbacks
    let s := daemonClients fd base uninit self w
    ∃ front turn env middle turn' back,
      es = front ++ (i, .serverReads turn env) :: middle ++ (i, .clientReads turn') :: back ∧
      (∃ reqId a, (i, .asked c.node reqId a) ∈ S.trace s front) ∧
      (i, .answered package calls) ∈
        S.emit (S.run s (front ++ (i, .serverReads turn env) :: middle)) (i, .clientReads turn') ∧
      c.ret =
        (detailsAt env.callback.mallocOk (S.run s front).shared.registry.taskList p).1.code ∧
      c.data =
        (detailsAt env.callback.mallocOk (S.run s front).shared.registry.taskList p).2.map
          .queryTask ∧
      (S.run s (front ++ [(i, .serverReads turn env)])).shared = (S.run s front).shared := by
  intro S s
  have sound := S.allSteps_imp (fun _ _ (step : DaemonStep codec _ _) => step.sound) meets
  rcases answered_from sound answered called with
    ⟨q, f, front, turn, env, middle, turn', back, split, read, asked, _, complete, served, _,
      called⟩
  have whole : es = front ++ (i, .serverReads turn env) :: (middle ++ (i, .clientReads turn') ::
      back) := by
    rw [split, List.append_assoc]
    rfl
  -- the step that handled the query, on the registry as it was then
  have now : DaemonStep codec (S.run s front) (i, .serverReads turn env) :=
    (S.allSteps_iff _ s es).mp meets front _ _ whole
  have earlier : (i, .asked c.node q.reqId q.args) ∈ S.trace s es := by
    rw [whole, trace_append]
    exact List.mem_append_left _ asked
  rcases query _ _ earlier with ⟨sent, typed⟩
  rcases querySingleTaskTree_decoded ⟨by omega, range⟩ name with ⟨data, tree, decoded⟩
  rw [built] at tree
  obtain rfl := Option.some.inj tree
  rcases query_handled codec env.callback (fd i) (uninit i) (self i) now.pids
    ⟨by omega, range⟩ (by omega : p ≠ 0) decoded with ⟨same, answer⟩
  let request : Json :=
    .object [(text "type", .number EventType.queryTask.code), (text "data", data)]
  have parsed : codec.parse q.args.data = some request := by
    rw [sent]
    exact trips
  have type : numberItem request (text "type") = some (EventType.queryTask.code : ℚ) := rfl
  rcases Prod.mk.inj served with ⟨made, after⟩
  rcases answered_tree now.serves (conversation_server i front) complete parsed type made with
    ⟨tree, answer', reply⟩
  obtain rfl := Option.some.inj (answer.symm.trans answer')
  have told : codec.parse f.payload =
      some (detailsTree (detailsAt env.callback.mallocOk
        (S.run s front).shared.registry.taskList p)) := reply
  rcases query_called positive range told typed called with ⟨ret, details⟩
  refine ⟨front, turn, env, middle, turn', back, split, ⟨_, _, asked⟩, read, ret, details, ?_⟩
  calc
    (S.run s (front ++ [(i, .serverReads turn env)])).shared =
        (parseServerData codec (coreCallbacks env.callback) env.alloc env.outcomes
          (connectionServer (fd i) (uninit i) (self i)) q.reqId q.args.data
          (S.run s front).shared).world := after.symm
    _ = (S.run s front).shared := by
      have all : env.alloc = fun _ => true := funext now.serves.1
      rw [all, parseServerData_typed parsed type]
      exact same

def queryQuestion : Question Unit where
  reqId := 1
  args := ⟨.queryTask, (textCodec.print queryRequest).bytes, 28, some (), 3, 0, true, true,
    [.count 4, .count 4, .count 99]⟩
  sendable := ⟨by decide +kernel, by decide +kernel, by decide +kernel, by decide⟩

def queryTurn : ReadTurn := ⟨36, true, true⟩

def queryRun : List (Bool × DialogueEvent Unit CbEnv CoreWorld) :=
  [(false, .send queryQuestion.args), (true, .others (runningWorld 5)),
    (false, .serverReads queryTurn plainServe), (false, .clientReads ⟨99, true, true⟩)]

abbrev queryClients : Together Bool (Dialogue Unit CoreCb Nat CoreWorld) CoreWorld :=
  daemonClients (fun _ => 7) (fun _ => 0) (fun _ _ => none) (fun _ => 0) ⟨⟨[], 0⟩, []⟩

abbrev queryConversations := conversations (ι := Bool) (κ := Unit) textCodec coreCallbacks

theorem query_meets :
    queryConversations.AllSteps (DaemonStep textCodec) queryClients queryRun := by
  have parsed : textCodec.parse queryQuestion.args.data = some queryRequest := rfl
  have typed : numberItem queryRequest (text "type") = some 2 := rfl
  let s := queryConversations.run queryClients (queryRun.take 2)
  let d := s.member (sharing textCodec coreCallbacks) false
  have complete : taken textCodec coreCallbacks d queryTurn plainServe =
      some queryQuestion.frame.package := by
    decide +kernel
  have replied : replyTo textCodec (coreCallbacks plainEnv) (fun _ => true) d.server
      queryQuestion.args.data d.state =
        some (textCodec.print (detailTree (detailOf (runningTask 5) 0))) := by
    decide +kernel
  have send : DaemonStep textCodec queryClients (false, .send queryQuestion.args) :=
    ⟨⟨queryQuestion.sendable, by decide +kernel, by decide +kernel⟩, trivial, by decide +kernel⟩
  have started : DaemonStep textCodec (queryConversations.run queryClients (queryRun.take 1))
      (true, .others (runningWorld 5)) :=
    ⟨trivial, trivial, by decide +kernel⟩
  have sound := sound_serving complete rfl (by decide) (by decide +kernel) replied
    runningDetail_short
  have serves := serves_serving complete (fun _ => rfl) parsed typed rfl rfl
  have serve : DaemonStep textCodec s (false, .serverReads queryTurn plainServe) :=
    ⟨sound, serves, by decide +kernel⟩
  have read : DaemonStep textCodec (queryConversations.run queryClients (queryRun.take 3))
      (false, .clientReads ⟨99, true, true⟩) :=
    ⟨rfl, trivial, by decide +kernel⟩
  exact ⟨send, started, serve, read, trivial⟩

def queryReply : Package :=
  (replyFrame 1 (textCodec.print (detailTree (detailOf (runningTask 5) 0)))
    runningDetail_short).package

def queryCall : Call Unit := ⟨1, (), 0, some (.queryTask (detailOf (runningTask 5) 0)), .frame 1⟩

theorem query_answered : (false, .answered queryReply [queryCall]) ∈
    queryConversations.trace queryClients queryRun := by
  apply Together.mem_outs.mp
  apply mem_of_answeredCalls
  decide +kernel

def askedFor : DialogueOut κ CoreCb Nat CbEnv CoreWorld → Option (List UInt8 × EventType)
  | .asked _ _ a => some (a.data, a.reqType)
  | _ => none

theorem query_asked {n : Nat} {reqId : UInt32} {a : SendArgs Unit}
    (asked : (false, .asked n reqId a) ∈ queryConversations.trace queryClients queryRun) :
    a.data = (textCodec.print queryRequest).bytes ∧ a.reqType = .queryTask := by
  have all : ((queryConversations.trace queryClients queryRun).filterMap
      (Together.out? false)).filterMap askedFor =
        [((textCodec.print queryRequest).bytes, .queryTask)] := by
    decide +kernel
  have member : (a.data, a.reqType) ∈ ((queryConversations.trace queryClients queryRun).filterMap
      (Together.out? false)).filterMap askedFor :=
    List.mem_filterMap.mpr ⟨_, Together.mem_outs.mpr asked, rfl⟩
  rw [all] at member
  exact Prod.mk.inj (List.mem_singleton.mp member)

theorem details_linearised_seven :
    let S := queryConversations
    let s := queryClients
    ∃ front turn env middle turn' back,
      queryRun = front ++ (false, .serverReads turn env) :: middle ++
        (false, .clientReads turn') :: back ∧
      (∃ reqId a, (false, .asked 1 reqId a) ∈ S.trace s front) ∧
      (false, .answered queryReply [queryCall]) ∈ S.emit
        (S.run s (front ++ (false, .serverReads turn env) :: middle)) (false, .clientReads turn') ∧
      queryCall.ret =
        (detailsAt env.callback.mallocOk (S.run s front).shared.registry.taskList 7).1.code ∧
      queryCall.data =
        (detailsAt env.callback.mallocOk (S.run s front).shared.registry.taskList 7).2.map
          .queryTask ∧
      (S.run s (front ++ [(false, .serverReads turn env)])).shared = (S.run s front).shared := by
  have built : querySingleTaskTree (fun _ => true) 7 none = some queryRequest := rfl
  have trips : textCodec.RoundTrips queryRequest := rfl
  exact details_linearised query_meets (by decide) (by decide) built trips query_answered
    List.mem_cons_self fun _ _ asked => query_asked asked

end Dialogue

end TaskMonitor
