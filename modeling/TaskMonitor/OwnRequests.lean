import TaskMonitor.QueriedDetails

/-! The requests that the senders of `MsgClient` make, on their way through the daemon: what they
change there, and what their callbacks can be told. -/

namespace TaskMonitor

open CText Cjson MsgServer MsgClient StepMachine

namespace MsgClient

/-- The trees that the four senders print, whichever of their allocations fail. -/
inductive Built : EventType → Json → Prop where
  | hearbeat {alloc : ReqSite → Bool} {pid : Int} {heartbeat : ℚ} {tree : Json}
      (made : hearbeatTree alloc pid heartbeat = some tree) : Built .heartbeat tree
  | queryAllTask {alloc : ReqSite → Bool} {tree : Json}
      (made : queryAllTaskTree alloc = some tree) : Built .queryAll tree
  | querySingleTask {alloc : ReqSite → Bool} {pid : Int} {name : Option Text} {tree : Json}
      (made : querySingleTaskTree alloc pid name = some tree) : Built .queryTask tree
  | taskAction {alloc : ReqSite → Bool} {pid action : Int} {tree : Json}
      (made : taskActionTree alloc pid action = some tree) : Built .taskAction tree

variable {κ : Type*}

def OwnRequest (codec : Codec) (a : SendArgs κ) : Prop :=
  ∃ tree, Built a.reqType tree ∧ codec.RoundTrips tree ∧ a.data = (codec.print tree).bytes

def SendsOwn (codec : Codec) (w : ClientWorld κ) (r : SendResult κ) : Prop :=
  r = ⟨w, [], [], some (-1)⟩ ∨ ∃ a, OwnRequest codec a ∧ r = sendRequest w a

theorem sendTree_own {codec : Codec} (env : SendEnv) (w : ClientWorld κ) {type : EventType}
    {tree : Option Json} (cb : Option κ) (built : ∀ root ∈ tree, Built type root)
    (trips : ∀ root ∈ tree, codec.RoundTrips root) :
    SendsOwn codec w (sendTree codec env w type tree cb) := by
  rcases sendTree_cases codec env w type tree cb with silent | ⟨root, a, rfl, rfl, data, sent⟩
  · exact .inl silent
  · exact .inr ⟨a, ⟨root, built root rfl, trips root rfl, data⟩, sent⟩

theorem senders_own {codec : Codec}
    (trips : ∀ type root, Built type root → codec.RoundTrips root) (env : SendEnv)
    (w : ClientWorld κ) (cb : Option κ) :
    (∀ pid heartbeat, SendsOwn codec w (sendReqHearbeat codec env w pid heartbeat cb)) ∧
      SendsOwn codec w (sendReqQueryAllTask codec env w cb) ∧
      (∀ pid name, SendsOwn codec w (sendReqQuerySingleTask codec env w pid name cb)) ∧
      ∀ pid action, SendsOwn codec w (sendReqTaskAction codec env w pid action cb) := by
  have own {type : EventType} {tree : Option Json} (built : ∀ root ∈ tree, Built type root) :
      SendsOwn codec w (sendTree codec env w type tree cb) :=
    sendTree_own env w cb built fun root made => trips type root (built root made)
  exact ⟨fun _ _ => own fun _ made => .hearbeat made, own fun _ made => .queryAllTask made,
    fun _ _ => own fun _ made => .querySingleTask made,
    fun _ _ => own fun _ made => .taskAction made⟩

theorem requestTree_type {alloc : ReqSite → Bool} {type : EventType} {data tree : Json} {d : ℚ}
    (made : requestTree alloc type data = some tree)
    (typed : numberItem tree (text "type") = some d) : d = type.code := by
  have other : sameKey (text "data") (text "type") = false := by decide
  rw [requestTree, createObject] at made
  split at made
  · simp only [Option.bind_eq_bind, Option.bind_some] at made
    split at made
    · obtain rfl := Option.some.inj made
      have object := isObject_addNumberToObject (alloc (.member (text "type"))) (.object [])
        (text "type") type.code
      rw [numberItem_eq_some_iff, getObjectItem_addItemToObject_ne object other,
        addNumberToObject, getObjectItem_addItemToObject rfl, sameKey_self] at typed
      cases allocated : alloc (.member (text "type")) with
      | false => simp [allocated] at typed
      | true => simpa [allocated, eq_comm] using typed
    · cases made
  · cases made

theorem Built.type_eq {type : EventType} {tree : Json} (built : Built type tree) {d : ℚ}
    (typed : numberItem tree (text "type") = some d) : d = type.code := by
  cases built with
  | hearbeat made => exact requestTree_type made typed
  | queryAllTask made =>
      rename_i alloc
      rw [queryAllTaskTree, createObject] at made
      split at made
      · simp only [Option.bind_eq_bind, Option.bind_some, Option.pure_def,
          Option.some.injEq] at made
        subst made
        rw [numberItem_eq_some_iff, addNumberToObject, getObjectItem_addItemToObject rfl,
          sameKey_self] at typed
        cases allocated : alloc (.member (text "type")) with
        | false => simp [allocated] at typed
        | true => simpa [allocated, eq_comm] using typed
      · cases made
  | querySingleTask made => exact requestTree_type made typed
  | taskAction made => exact requestTree_type made typed

theorem Built.missing {type : EventType} {tree data : Json} (built : Built type tree)
    (found : getObjectItem tree (text "data") = some data) :
    getObjectItem data (text "hearbeat") = none := by
  cases built with
  | hearbeat made =>
      obtain rfl := Option.some.inj (found.symm.trans (requestTree_data made))
      exact getObjectItem_pair _ _ _ _ _ _ _ (by decide) (by decide)
  | queryAllTask made =>
      rw [queryAllTaskTree, createObject] at made
      split at made
      · simp only [Option.bind_eq_bind, Option.bind_some, Option.pure_def,
          Option.some.injEq] at made
        subst made
        rw [getObjectItem_addNumberToObject_ne rfl (by decide)] at found
        cases found
      · cases made
  | querySingleTask made =>
      rename_i name
      obtain rfl := Option.some.inj (found.symm.trans (requestTree_data made))
      have pid (ok : Bool) (p : Int) : getObjectItem
          (addNumberToObject ok (.object []) (text "pid") p) (text "hearbeat") = none :=
        getObjectItem_addNumberToObject_ne rfl (by decide) ok p
      cases name with
      | none => exact pid _ _
      | some name =>
          have object := isObject_addNumberToObject
          exact (getObjectItem_addItemToObject_ne (object _ _ _ _) (by decide) _).trans (pid _ _)
  | taskAction made =>
      obtain rfl := Option.some.inj (found.symm.trans (requestTree_data made))
      exact getObjectItem_pair _ _ _ _ _ _ _ (by decide) (by decide)

theorem Built.undecoded {type : EventType} {tree : Json} (built : Built type tree) :
    decodeHeartbeatReq (getObjectItem tree (text "data")) = none ∧
      decodeTaskActionReq (getObjectItem tree (text "data")) = none := by
  cases found : getObjectItem tree (text "data") with
  | none => exact ⟨rfl, rfl⟩
  | some data => exact undecoded_of_missing (built.missing found)

end MsgClient

def ReadsOnly (type : EventType) : Prop := type = .queryAll ∨ type = .queryTask

section Server

variable {codec : Codec} {type : EventType} {tree : Json} (fd : Int)
  (uninit : EventType → Option Nat) (self : Nat)

/-- Whatever type a sender's message is taken to have, it changes nothing and reaches at most a
callback that reads. -/
theorem dispatch_built (built : Built type tree) (env : CbEnv) (alloc : AllocSite → Bool) (t : Int)
    (w : CoreWorld) :
    let r := dispatch codec (coreCallbacks env) alloc (connectionServer fd uninit self) t
      (getObjectItem tree (text "data")) w
    r.world = w ∧ ∀ inv ∈ r.invoked, ReadsOnly inv.type := by
  intro r
  rcases built.undecoded with ⟨heartbeat, action⟩
  rcases connectionServer_registered fd uninit self with ⟨query, _⟩
  have listing : (connectionServer fd uninit self).mEventCb .queryAll = some .processGetAllTask :=
    rfl
  constructor
  · by_cases acts : t = EventType.taskAction.code
    · subst acts
      have acting : r = processTaskActionReq codec (coreCallbacks env) alloc
        (connectionServer fd uninit self) (getObjectItem tree (text "data")) w := rfl
      rw [acting, processTaskActionReq, processReq_of_undecoded action]
    · exact dispatch_reading codec env alloc fd uninit self acts _ w
  · intro inv invoked
    simp only [r, dispatch] at invoked
    split at invoked
    · rw [processHeartbeatReq, processReq_of_undecoded heartbeat] at invoked
      cases invoked
    split at invoked
    · rw [processQueryAllReq, processReq_invoked codec _ alloc w listing] at invoked
      obtain rfl := Option.some.inj invoked
      exact .inl rfl
    split at invoked
    · rw [processQuerySingleTaskReq, processReq_invoked codec _ alloc w query] at invoked
      rcases Option.map_eq_some_iff.mp invoked with ⟨req, _, rfl⟩
      exact .inr rfl
    split at invoked
    · rw [processTaskActionReq, processReq_of_undecoded action] at invoked
      cases invoked
    · cases invoked

theorem parseServerData_built (built : Built type tree) {payload : List UInt8}
    (parsed : codec.parse payload = some tree) (env : CbEnv) (alloc : AllocSite → Bool)
    (outcomes : List WriteOutcome) (reqId : UInt32) (w : CoreWorld) :
    let r := parseServerData codec (coreCallbacks env) alloc outcomes
      (connectionServer fd uninit self) reqId payload w
    r.world = w ∧ ∀ inv ∈ r.invoked, ReadsOnly inv.type := by
  intro r
  simp only [r, parseServerData, parsed]
  cases typed : numberItem tree (text "type") with
  | none => simp
  | some d =>
      dsimp only
      split
      · exact dispatch_built fd uninit self built env alloc (truncate d) w
      · exact dispatch_built fd uninit self built env alloc (truncate d) w

def Tells : EventType → Int → Prop
  | .queryTask, _ => True
  | .queryAll, ret => ret = EventErrCode.mem.code
  | _, ret => ret = EventErrCode.parse.code

theorem listing_silent {κ : Type*} {rsp : Option TaskAllRsp} {reply : Json}
    (encoded : encodeQueryAllRsp (fun _ => true) rsp = some reply) {req : MsgRequest κ}
    (type : req.type = .queryAll) {f : Frame} (parsed : codec.parse f.payload = some reply)
    {c : Call κ} : c ∉ callsFor codec req f := by
  intro called
  have ret := numberItem_eq_some_iff.mp (encodeRsp_ret (t := .queryAll) encoded)
  cases rsp with
  | none => cases encoded
  | some rsp =>
      rcases encodeQueryAllRsp_data encoded with ⟨items, array⟩
      rcases mem_callsFor_args called parsed ret with ⟨cb, args⟩
      have zero : (Json.number 0).valueint = 0 := rfl
      rw [zero, array, processRspData, cb, if_neg (by simp), if_neg (by simp), type] at args
      cases args

theorem listing_answer {env : CbEnv} (data : Option Json) {w : CoreWorld} {reply : Json}
    (answer : answerTree (coreCallbacks env) (processQueryAllReq codec (coreCallbacks env)
      (fun _ => true) (connectionServer fd uninit self) data w) w = some reply) :
    retTree true .mem = reply ∨ ∃ rsp, encodeQueryAllRsp (fun _ => true) rsp = some reply := by
  have listing : (connectionServer fd uninit self).mEventCb .queryAll = some .processGetAllTask :=
    rfl
  simp only [processQueryAllReq, processReq, listing] at answer
  split at answer
  · rename_i fails
    have mem : (processGetAllTask env w).ret = .mem := by
      change (processGetAllTask env w).ret ≠ .succ at fails
      rw [processGetAllTask] at fails ⊢
      split at fails
      · exact absurd rfl fails
      · rename_i none
        rw [if_neg none]
    have told : (coreCallbacks env .processGetAllTask .queryAll ()
      ((connectionServer fd uninit self).mUserData .queryAll) w).ret = .mem := mem
    rw [told] at answer
    exact .inl (Option.some.inj answer)
  split at answer
  · exact .inl (Option.some.inj answer)
  · exact .inr ⟨_, answer⟩

theorem Tells.succeeds (tells : Tells type 0) : type = .queryTask := by
  cases type with
  | queryTask => rfl
  | _ => cases tells

theorem told_built {κ : Type*} (built : Built type tree) {d : ℚ}
    (typed : numberItem tree (text "type") = some d) {env : CbEnv} {w : CoreWorld} {reply : Json}
    (answer : answerTree (coreCallbacks env) (handling codec (coreCallbacks env)
      (connectionServer fd uninit self) tree d w) w = some reply) {f : Frame}
    (parsed : codec.parse f.payload = some reply) {req : MsgRequest κ} (same : req.type = type)
    {c : Call κ} (called : c ∈ callsFor codec req f) : Tells type c.ret := by
  obtain rfl := built.type_eq typed
  rcases built.undecoded with ⟨heartbeat, action⟩
  have refused {code : EventErrCode} (fails : code ≠ .succ)
      (told : retTree true code = reply) : c.ret = code.code := by
    subst told
    exact (callsFor_code parsed called fails).1
  cases built with
  | hearbeat made =>
      have handled : handling codec (coreCallbacks env) (connectionServer fd uninit self) tree
        EventType.heartbeat.code w = processHeartbeatReq codec (coreCallbacks env) (fun _ => true)
          (connectionServer fd uninit self) (getObjectItem tree (text "data")) w := rfl
      rw [handled, processHeartbeatReq, processReq_of_undecoded heartbeat] at answer
      exact refused (by decide) (Option.some.inj answer)
  | taskAction made =>
      have handled : handling codec (coreCallbacks env) (connectionServer fd uninit self) tree
        EventType.taskAction.code w = processTaskActionReq codec (coreCallbacks env) (fun _ => true)
          (connectionServer fd uninit self) (getObjectItem tree (text "data")) w := rfl
      rw [handled, processTaskActionReq, processReq_of_undecoded action] at answer
      exact refused (by decide) (Option.some.inj answer)
  | querySingleTask made => trivial
  | queryAllTask made =>
      cases listing_answer fd uninit self (getObjectItem tree (text "data")) answer with
      | inl told => exact refused (by decide) told
      | inr listed =>
          rcases listed with ⟨rsp, encoded⟩
          exact absurd called (listing_silent encoded same parsed)

end Server

namespace Dialogue

variable {ι κ : Type*} [DecidableEq ι] {codec : Codec}

structure OwnStep (codec : Codec) (s : Together ι (Dialogue κ CoreCb Nat CoreWorld) CoreWorld)
    (e : ι × DialogueEvent κ CbEnv CoreWorld) : Prop where
  sound : SoundStep codec coreCallbacks s e
  own : ∀ a, e.2 = .send a → OwnRequest codec a

def changed? {γ σ : Type*} (e : ι × DialogueEvent κ γ σ) : Option σ :=
  match e.2 with
  | .others w => some w
  | _ => none

omit [DecidableEq ι] in
theorem changed?_eq_some_iff {γ σ : Type*} {e : ι × DialogueEvent κ γ σ} {w : σ} :
    changed? e = some w ↔ e.2 = .others w := by
  rw [changed?]
  cases e.2 <;> simp

section Runs

variable {fd : ι → Int} {base : ι → UInt32} {uninit : ι → EventType → Option Nat} {self : ι → Nat}
  {w : CoreWorld} {es : List (ι × DialogueEvent κ CbEnv CoreWorld)}

theorem handled_built
    (meets : (conversations codec coreCallbacks).AllSteps (OwnStep codec)
      (daemonClients fd base uninit self w) es) {i : ι} {package : Package} {env : ServeEnv CbEnv}
    {before : CoreWorld} {invoked : Option (Invocation CoreCb Nat)}
    (handled : (i, .handled package env before invoked) ∈
      (conversations codec coreCallbacks).trace (daemonClients fd base uninit self w) es) :
    ∃ type tree, Built type tree ∧
      codec.parse (package.data.drop dataHeadLen.toNat) = some tree := by
  let S := conversations (ι := ι) (κ := κ) codec coreCallbacks
  have sound := S.allSteps_imp (fun _ _ (step : OwnStep codec _ _) => step.sound) meets
  rcases handled_asked sound handled with ⟨n, reqId, a, asked, rfl⟩
  rcases asked_sent asked with ⟨front, back, split⟩
  have now := (S.allSteps_iff _ _ es).mp meets front _ back split
  rcases now.own a rfl with ⟨tree, built, trips, data⟩
  refine ⟨a.reqType, tree, built, ?_⟩
  have payload : (htonl reqId ++ htonl a.len ++ a.data).drop dataHeadLen.toNat = a.data := rfl
  rw [payload, data]
  exact trips

/-- A request of a sender is handled without effect. -/
theorem handled_inert
    (meets : (conversations codec coreCallbacks).AllSteps (OwnStep codec)
      (daemonClients fd base uninit self w) es) {i : ι} {package : Package} {env : ServeEnv CbEnv}
    {before : CoreWorld} {invoked : Option (Invocation CoreCb Nat)}
    (handled : (i, .handled package env before invoked) ∈
      (conversations codec coreCallbacks).trace (daemonClients fd base uninit self w) es) :
    (served codec coreCallbacks (connectionServer (fd i) (uninit i) (self i)) env package
      before).world = before ∧ ∀ inv ∈ invoked, ReadsOnly inv.type := by
  rcases handled_built meets handled with ⟨type, tree, built, parsed⟩
  rcases parseServerData_built (fd i) (uninit i) (self i) built parsed env.callback env.alloc
    env.outcomes package.reqId before with ⟨same, reads⟩
  rcases mem_together_trace (sharing codec coreCallbacks) handled with ⟨front, e, back, _, emitted⟩
  rcases handled_emitted emitted with ⟨turn, _, _, _, told, _⟩
  rw [conversation_server i front] at told
  refine ⟨same, ?_⟩
  intro inv invoked'
  apply reads inv
  rw [told] at invoked'
  exact invoked'

theorem shared_next
    {e : ι × DialogueEvent κ CbEnv CoreWorld} (alone : ∀ w, e.2 ≠ .others w)
    (meets : (conversations codec coreCallbacks).AllSteps (OwnStep codec)
      (daemonClients fd base uninit self w) (es ++ [e])) :
    let state := fun es =>
      ((conversations codec coreCallbacks).run (daemonClients fd base uninit self w) es).shared
    state (es ++ [e]) = state es := by
  let S := conversations (ι := ι) (κ := κ) codec coreCallbacks
  let s := S.run (daemonClients fd base uninit self w) es
  let d := s.member (sharing codec coreCallbacks) e.1
  intro state
  have after : state (es ++ [e]) = ((machine codec coreCallbacks).next d e.2).state := by
    dsimp only [state]
    rw [S.run_append]
    rfl
  rw [after]
  by_cases handles : ∃ package env before invoked,
      .handled package env before invoked ∈ (machine codec coreCallbacks).emit d e.2
  · rcases handles with ⟨package, env, before, invoked, emitted⟩
    have handled : (e.1, .handled package env before invoked) ∈
        S.trace (daemonClients fd base uninit self w) (es ++ [e]) := by
      rw [S.trace_append, S.trace_one]
      exact List.mem_append_right _ (List.mem_map.mpr ⟨_, emitted, rfl⟩)
    rcases handled_inert meets handled with ⟨same, _⟩
    rcases handled_emitted emitted with ⟨turn, _, rfl, _, _, made⟩
    have server : d.server = _ := conversation_server e.1 es
    calc
      ((machine codec coreCallbacks).next d e.2).state =
          (served codec coreCallbacks d.server env package d.state).world := made
      _ = (served codec coreCallbacks (connectionServer (fd e.1) (uninit e.1) (self e.1)) env
            package d.state).world := by
        rw [server]
        rfl
      _ = state es := same
  · have quiet : ∀ package env before invoked,
        .handled package env before invoked ∉ (machine codec coreCallbacks).emit d e.2 := by
      intro package env before invoked emitted
      exact handles ⟨package, env, before, invoked, emitted⟩
    exact state_kept alone quiet

end Runs

variable {fd : ι → Int} {base : ι → UInt32} {uninit : ι → EventType → Option Nat} {self : ι → Nat}
  {w : CoreWorld} {es : List (ι × DialogueEvent κ CbEnv CoreWorld)}

/-- Clients that send what the senders build, in any number and however interleaved, change nothing
in the daemon: its state is what everything else has made of it. The callbacks for heartbeats and
for actions are never called. -/
theorem own_requests_inert
    (meets : (conversations codec coreCallbacks).AllSteps (OwnStep codec)
      (daemonClients fd base uninit self w) es) :
    ((conversations codec coreCallbacks).run (daemonClients fd base uninit self w) es).shared =
        (es.filterMap changed?).getLast?.getD w ∧
      ∀ i package env before inv, (i, .handled package env before (some inv)) ∈
        (conversations codec coreCallbacks).trace (daemonClients fd base uninit self w) es →
        ReadsOnly inv.type := by
  let S := conversations (ι := ι) (κ := κ) codec coreCallbacks
  constructor
  · induction es using List.reverseRecOn with
    | nil => rfl
    | append_singleton es e ih =>
        have earlier := ih ((S.allSteps_append _ _ _ _).mp meets).1
        rw [List.filterMap_append]
        cases moved : changed? e with
        | some w' =>
            have state : (S.run (daemonClients fd base uninit self w) (es ++ [e])).shared = w' := by
              rcases e with ⟨i, e⟩
              obtain rfl : e = .others w' := changed?_eq_some_iff.mp moved
              rw [S.run_append]
              rfl
            rw [state]
            simp [moved]
        | none =>
            have alone : ∀ w', e.2 ≠ .others w' := by
              intro w' others
              rw [changed?_eq_some_iff.mpr others] at moved
              cases moved
            calc
              _ = (S.run (daemonClients fd base uninit self w) es).shared := shared_next alone meets
              _ = (es.filterMap changed?).getLast?.getD w := earlier
              _ = (es.filterMap changed? ++ [e].filterMap changed?).getLast?.getD w := by
                simp [moved]
  · intro i package env before inv handled
    exact (handled_inert meets handled).2 inv rfl

/-- Of what the senders build only queries for one task can succeed: the callback of a heartbeat or
an action is told that the request was not understood, and that of a listing that there was no
memory for it, whenever a reply tells them anything. -/
theorem only_queries_succeed
    (meets : (conversations codec coreCallbacks).AllSteps (fun s e => OwnStep codec s e ∧
      Serves codec coreCallbacks (s.member (sharing codec coreCallbacks) e.1) e.2)
      (daemonClients fd base uninit self w) es) {i : ι} {package : Package} {calls : List (Call κ)}
    {c : Call κ} (answered : (i, .answered package calls) ∈
      (conversations codec coreCallbacks).trace (daemonClients fd base uninit self w) es)
    (called : c ∈ calls) :
    let outs := (conversations codec coreCallbacks).trace (daemonClients fd base uninit self w) es
    ∃ reqId a, (i, .asked c.node reqId a) ∈ outs ∧
      (∀ reqId' a', (i, .asked c.node reqId' a') ∈ outs → a' = a) ∧
      Tells a.reqType c.ret ∧ (c.ret = 0 → a.reqType = .queryTask) := by
  let S := conversations (ι := ι) (κ := κ) codec coreCallbacks
  let s := daemonClients (κ := κ) fd base uninit self w
  intro outs
  have sound := S.allSteps_imp (fun _ _ step => step.1.sound) meets
  have each := (S.allSteps_iff _ s es).mp meets
  rcases answered_served sound answered called with
    ⟨q, f, front, turn, env, back, split, asked, only, complete, served, _, called⟩
  rcases asked_sent asked with ⟨front', back', split'⟩
  have sent := each front' (i, .send q.args) (back' ++ (i, .serverReads turn env) :: back) (by
    rw [split, split', List.append_assoc, List.cons_append])
  rcases sent.1.own q.args rfl with ⟨tree, built, trips, data⟩
  have read : codec.parse q.args.data = some tree := by
    rw [data]
    exact trips
  -- a request that is answered has a type
  rcases Option.bind_eq_some_iff.mp (Prod.mk.inj served).1 with ⟨_, replied, _⟩
  rcases Option.bind_eq_some_iff.mp replied with ⟨root, parsed, later⟩
  rcases Option.bind_eq_some_iff.mp later with ⟨type, typed, _⟩
  obtain rfl := Option.some.inj (read.symm.trans parsed)
  have serves := (each front (i, .serverReads turn env) back split).2
  rcases answered_tree serves (conversation_server i front) complete read typed
    (Prod.mk.inj served).1 with ⟨reply, answer, told⟩
  have tells : Tells q.args.reqType c.ret :=
    told_built (fd i) (uninit i) (self i) built typed answer told rfl called
  refine ⟨q.reqId, q.args, ?_, fun reqId' a' other => (only reqId' a' other).2, tells, ?_⟩
  · change _ ∈ S.trace s es
    rw [split, S.trace_append]
    exact List.mem_append_left _ asked
  · intro zero
    rw [zero] at tells
    exact tells.succeeds

def stopTree : Json :=
  .object [(text "type", .number 3),
    (text "data", .object [(text "pid", .number 7), (text "action", .number 2)])]

def stopQuestion : Question Unit where
  reqId := 1
  args := ⟨.taskAction, (textCodec.print stopTree).bytes, 39, some (), 3, 0, true, true,
    [.count 4, .count 4, .count 99]⟩
  sendable := ⟨by decide +kernel, by decide +kernel, by decide +kernel, by decide⟩

def stopTurn : ReadTurn := ⟨47, true, true⟩

def stopRun : List (Bool × DialogueEvent Unit CbEnv CoreWorld) :=
  [(false, .send stopQuestion.args), (true, .others (runningWorld 5)),
    (false, .serverReads stopTurn plainServe), (false, .clientReads ⟨99, true, true⟩)]

theorem stop_meets : queryConversations.AllSteps (fun s e => OwnStep textCodec s e ∧
    Serves textCodec coreCallbacks (s.member (sharing textCodec coreCallbacks) e.1) e.2)
    queryClients stopRun := by
  have parsed : textCodec.parse stopQuestion.args.data = some stopTree := rfl
  have typed : numberItem stopTree (text "type") = some 3 := rfl
  let s := queryConversations.run queryClients (stopRun.take 2)
  let d := s.member (sharing textCodec coreCallbacks) false
  have complete : taken textCodec coreCallbacks d stopTurn plainServe =
      some stopQuestion.frame.package := by
    decide +kernel
  have replied : replyTo textCodec (coreCallbacks plainEnv) (fun _ => true) d.server
      stopQuestion.args.data d.state = some (textCodec.print (retTree true .parse)) := by
    decide +kernel
  have own : OwnRequest textCodec stopQuestion.args := by
    have made : taskActionTree (fun _ => true) 7 taskActionStop = some stopTree := rfl
    exact ⟨stopTree, .taskAction made, rfl, rfl⟩
  have sends : OwnStep textCodec queryClients (false, .send stopQuestion.args) := by
    refine ⟨⟨stopQuestion.sendable, by decide +kernel, by decide +kernel⟩, ?_⟩
    intro a same
    obtain rfl := DialogueEvent.send.inj same
    exact own
  have sound := sound_serving complete rfl (by decide) (by decide +kernel) replied
    (by decide +kernel)
  have serves := serves_serving complete (fun _ => rfl) parsed typed rfl
    (textCodec_retTree true .parse)
  exact ⟨⟨sends, trivial⟩, ⟨⟨trivial, nofun⟩, trivial⟩, ⟨⟨sound, nofun⟩, serves⟩,
    ⟨⟨rfl, nofun⟩, trivial⟩, trivial⟩

theorem own_requests_inert_stop :
    (queryConversations.run queryClients stopRun).shared =
        (stopRun.filterMap changed?).getLast?.getD ⟨⟨[], 0⟩, []⟩ ∧
      ∀ i package env before inv, (i, .handled package env before (some inv)) ∈
        queryConversations.trace queryClients stopRun → ReadsOnly inv.type :=
  own_requests_inert (queryConversations.allSteps_imp (fun _ _ step => step.1) stop_meets)

def stopReply : Package :=
  (replyFrame 1 (textCodec.print (retTree true .parse)) (by decide +kernel)).package

def stopCall : Call Unit := ⟨1, (), EventErrCode.parse.code, none, .frame 1⟩

theorem stop_answered : (false, .answered stopReply [stopCall]) ∈
    queryConversations.trace queryClients stopRun := by
  apply Together.mem_outs.mp
  apply mem_of_answeredCalls
  decide +kernel

theorem only_queries_succeed_stop :
    let outs := queryConversations.trace queryClients stopRun
    ∃ reqId a, (false, .asked 1 reqId a) ∈ outs ∧
      (∀ reqId' a', (false, .asked 1 reqId' a') ∈ outs → a' = a) ∧
      Tells a.reqType stopCall.ret ∧ (stopCall.ret = 0 → a.reqType = .queryTask) :=
  only_queries_succeed stop_meets stop_answered List.mem_cons_self

end Dialogue

end TaskMonitor
