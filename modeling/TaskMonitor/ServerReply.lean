import TaskMonitor.MsgServer
import TaskMonitor.Library.CjsonText

/-! The reply of `parseServerData`: one frame for every request that has a type. -/

namespace TaskMonitor

open CText Cjson

theorem writeParts_clean {parts : List (List UInt8)} {outcomes : List WriteOutcome}
    (clean : .error ∉ outcomes) (returned : (writeParts parts outcomes).ret ≠ none) :
    (writeParts parts outcomes).sent = parts.flatten := by
  induction parts generalizing outcomes with
  | nil => rfl
  | cons part parts ih =>
      have wrote := writeSocket_wrote part outcomes
      dsimp only [writeParts] at returned ⊢
      generalize writeSocket part outcomes = first at *
      cases wrote with
      | done used rest split _ _ =>
          rw [split] at clean
          have later := ih (fun member => clean (List.mem_append_right used member)) (by
            intro waits
            simp [waits] at returned)
          rw [later, List.flatten_cons]
      | failed used rest sent split _ _ _ _ => exact absurd (by rw [split]; simp) clean
      | waiting sent _ _ _ _ => simp at returned

theorem writeFrame_clean {reqId len : UInt32} {data : List UInt8} {outcomes : List WriteOutcome}
    (clean : .error ∉ outcomes) (returned : (writeFrame reqId len data outcomes).ret ≠ none) :
    (writeFrame reqId len data outcomes).sent =
      htonl reqId ++ htonl len ++ data.take len.toNat := by
  rw [writeFrame_eq] at returned ⊢
  rw [writeParts_clean clean returned]
  simp

namespace MsgServer

variable {κ υ σ : Type*}

/-- How the handling of a request of type `code` can end when the allocations succeed. -/
inductive Handled (codec : Codec) (srv : MsgServer κ υ) (code : Int) :
    HandlerResult κ υ σ → Prop where
  | rejected (errcode : EventErrCode) (w : σ)
      (cause : errcode = .parse ∨ errcode = .unprocess ∨ errcode = .unknownType) :
      Handled codec srv code ⟨errcode, none, w, none⟩
  | failed (inv : Invocation κ υ) (w : σ) (same : (inv.type.code : Int) = code)
      (registered : srv.mEventCb inv.type = some inv.cb) (ret : inv.ret ≠ .succ) :
      Handled codec srv code ⟨inv.ret, none, w, some inv⟩
  | replied (inv : Invocation κ υ) (w : σ) (tree : Json) (same : (inv.type.code : Int) = code)
      (registered : srv.mEventCb inv.type = some inv.cb) (ret : inv.ret = .succ)
      (zero : numberItem tree (text "ret") = some 0) :
      Handled codec srv code ⟨.succ, some (codec.print tree), w, some inv⟩

/-- Registered callbacks that return `EVENT_SUCC` leave the reply structure of their type. -/
def Contract (call : CallbackSem κ υ σ) (srv : MsgServer κ υ) : Prop :=
  ∀ t cb, srv.mEventCb t = some cb → t ≠ .taskAction →
    ∀ req usrData w, (call cb t req usrData w).ret = .succ → (call cb t req usrData w).reply.isSome

theorem processReq_handled {type usrType : EventType} {decode : Option Json → Option (Req type)}
    {encode : Option (Rsp type) → Option Json} {codec : Codec} {call : CallbackSem κ υ σ}
    {srv : MsgServer κ υ}
    (answers : ∀ cb, srv.mEventCb type = some cb → ∀ req usrData w,
      (call cb type req usrData w).ret = .succ →
        ∃ tree, encode (call cb type req usrData w).reply = some tree ∧
          numberItem tree (text "ret") = some 0) (data : Option Json) (w : σ) :
    Handled codec srv type.code
      (processReq type usrType decode encode codec call (fun _ => true) srv data w) := by
  rw [processReq]
  cases decode data with
  | none => exact .rejected .parse w (.inl rfl)
  | some req =>
      cases registered : srv.mEventCb type with
      | none => exact .rejected .unprocess w (.inr (.inl rfl))
      | some cb =>
          by_cases ret : (call cb type req (srv.mUserData usrType) w).ret = .succ
          · rcases answers cb registered req _ w ret with ⟨tree, encoded, zero⟩
            simp only [ret, ne_eq, not_true_eq_false, if_false, encoded, if_true]
            exact .replied _ _ tree rfl registered rfl zero
          · simp only [ne_eq, ret, not_false_eq_true, if_true]
            exact .failed ⟨cb, type, req, srv.mUserData usrType, _⟩ _ rfl registered ret

theorem replyTree_ret (data : Json) :
    ∃ tree, replyTree (fun _ => true) data = some tree ∧ numberItem tree (text "ret") = some 0 :=
  ⟨_, rfl, rfl⟩

theorem encodeTaskList_isSome (list : Json) (i : Nat) (infos : List TaskSimpleInfo) :
    ∃ data, encodeTaskList (fun _ => true) list i infos = some data := by
  induction infos generalizing list i with
  | nil => exact ⟨list, rfl⟩
  | cons info infos ih => exact ih _ _

theorem dispatch_handled (codec : Codec) {call : CallbackSem κ υ σ} {srv : MsgServer κ υ}
    (contract : Contract call srv) (type : Int) (value : Option Json) (w : σ) :
    Handled codec srv type (dispatch codec call (fun _ => true) srv type value w) := by
  rw [dispatch]
  split
  · rename_i same
    rw [same]
    refine processReq_handled ?_ value w
    intro cb registered req usrData w ret
    obtain ⟨rsp, left⟩ := Option.isSome_iff_exists.mp
      (contract .heartbeat cb registered (by decide) req usrData w ret)
    rw [left]
    exact replyTree_ret _
  split
  · rename_i same
    rw [same]
    refine processReq_handled ?_ value w
    intro cb registered req usrData w ret
    obtain ⟨rsp, left⟩ := Option.isSome_iff_exists.mp
      (contract .queryAll cb registered (by decide) req usrData w ret)
    rcases encodeTaskList_isSome (.array []) 0 rsp.taskList with ⟨data, listed⟩
    rw [left]
    simp only [encodeQueryAllRsp, Option.bind_eq_bind, Option.bind_some, listed]
    exact replyTree_ret data
  split
  · rename_i same
    rw [same]
    refine processReq_handled ?_ value w
    intro cb registered req usrData w ret
    obtain ⟨rsp, left⟩ := Option.isSome_iff_exists.mp
      (contract .queryTask cb registered (by decide) req usrData w ret)
    rw [left]
    exact replyTree_ret _
  split
  · rename_i same
    rw [same]
    refine processReq_handled ?_ value w
    intro _ _ _ _ _ _
    exact ⟨_, rfl, rfl⟩
  · exact .rejected .unknownType w (.inr (.inr rfl))

theorem replyFor_handled {codec : Codec} {srv : MsgServer κ υ} {code : Int}
    {r : HandlerResult κ υ σ} (handled : Handled codec srv code r) :
    ∃ tree, replyFor codec (fun _ => true) r = some (codec.print tree) ∧
      numberItem tree (text "ret") = some (r.errcode.code : ℚ) := by
  have failMsg {e : EventErrCode} {replyData : Option CString} {w : σ}
      {invoked : Option (Invocation κ υ)} (fails : e ≠ .succ) :
      ∃ tree, replyFor codec (fun _ => true) ⟨e, replyData, w, invoked⟩ = some (codec.print tree) ∧
        numberItem tree (text "ret") = some (e.code : ℚ) := by
    refine ⟨.object [(text "ret", .number e.code)], ?_, rfl⟩
    simp only [replyFor, ne_eq, fails, not_false_eq_true, if_true]
    rfl
  cases handled with
  | rejected errcode w cause =>
      apply failMsg
      intro succ
      subst succ
      simp at cause
  | failed inv w same registered ret => exact failMsg ret
  | replied inv w tree same registered ret zero =>
      refine ⟨tree, rfl, ?_⟩
      rw [zero]
      rfl

def replyFrame (reqId : UInt32) (reply : CString) (limit : reply.strlen < 2 ^ 31) : Frame where
  reqId := reqId
  payload := reply.bytes
  nonempty := by simp [CString.bytes]
  fits := by
    have head : dataHeadLen.toNat = 8 := rfl
    have limit : reply.text.length < 2 ^ 31 := limit
    rw [CString.bytes, List.length_append, List.length_singleton]
    omega

/-- What the code a request ended with says of its callback. -/
structure Verdict (srv : MsgServer κ υ) (type : Int) (invoked : Option (Invocation κ υ))
    (code : EventErrCode) : Prop where
  zero_iff : code.code = 0 ↔ ∃ inv, invoked = some inv ∧ (inv.type.code : Int) = type ∧
    srv.mEventCb inv.type = some inv.cb ∧ inv.ret = .succ
  callback : ∀ inv, invoked = some inv → code = inv.ret
  refused : invoked = none → code = .parse ∨ code = .unprocess ∨ code = .unknownType

theorem verdict_handled {codec : Codec} {srv : MsgServer κ υ} {type : Int}
    {r : HandlerResult κ υ σ} (handled : Handled codec srv type r) :
    Verdict srv type r.invoked r.errcode := by
  cases handled with
  | rejected errcode w cause =>
      refine ⟨?_, nofun, fun _ => cause⟩
      rw [EventErrCode.code_eq_zero_iff]
      constructor
      · intro succ
        subst succ
        simp at cause
      · intro invoked
        rcases invoked with ⟨inv, absent, _⟩
        cases absent
  | failed inv w same registered ret =>
      refine ⟨?_, fun _ same => (Option.some.inj same) ▸ rfl, nofun⟩
      rw [EventErrCode.code_eq_zero_iff]
      constructor
      · exact fun succ => absurd succ ret
      · intro invoked
        rcases invoked with ⟨_, found, _, _, succ⟩
        cases found
        exact succ
  | replied inv w tree same registered ret zero =>
      refine ⟨?_, fun _ same => (Option.some.inj same) ▸ ret.symm, nofun⟩
      rw [EventErrCode.code_eq_zero_iff]
      exact ⟨fun _ => ⟨inv, rfl, same, registered, ret⟩, fun _ => rfl⟩

def replyOf (codec : Codec) (call : CallbackSem κ υ σ) (srv : MsgServer κ υ) (root : Json)
    (type : ℚ) (w : σ) : Option CString :=
  replyFor codec (fun _ => true)
    (dispatch codec call (fun _ => true) srv (truncate type) (getObjectItem root (text "data")) w)

/-- A reply that is written without an error is one frame. -/
theorem parseServerData_wire {codec : Codec} {call : CallbackSem κ υ σ} {alloc : AllocSite → Bool}
    {outcomes : List WriteOutcome} {srv : MsgServer κ υ} {reqId : UInt32} {data : List UInt8}
    {w : σ} {root : Json} {type : ℚ} {reply : CString} (parsed : codec.parse data = some root)
    (typed : numberItem root (text "type") = some type)
    (replied : replyFor codec alloc (dispatch codec call alloc srv (truncate type)
      (getObjectItem root (text "data")) w) = some reply) (short : reply.strlen < 2 ^ 31)
    (clean : .error ∉ outcomes)
    (returned : (parseServerData codec call alloc outcomes srv reqId data w).ret ≠ none) :
    (parseServerData codec call alloc outcomes srv reqId data w).wire =
      (replyFrame reqId reply short).encode := by
  simp only [parseServerData, parsed, typed, replied] at returned ⊢
  have written := writeFrame_clean clean returned
  let f := replyFrame reqId reply short
  have len : UInt32.ofNat (reply.strlen + 1) = f.len := by
    simp [f, Frame.len, replyFrame, CString.bytes, CString.strlen]
  have whole : reply.bytes.take f.len.toNat = reply.bytes := by
    rw [f.len_toNat]
    exact List.take_length
  rw [written, len, whole]
  rfl

end MsgServer

open MsgServer

variable {κ υ σ : Type*}

/-- A request with a type gets one frame, with its id and the reply whole, NUL included. That
no printed text reaches 2^31 bytes is the JSON library's own limit. -/
theorem one_matching_reply {codec : Codec} {call : CallbackSem κ υ σ} {srv : MsgServer κ υ}
    (contract : Contract call srv) {outcomes : List WriteOutcome} (reqId : UInt32)
    {data : List UInt8} (w : σ) {root : Json} {type : ℚ}
    (parsed : codec.parse data = some root) (typed : numberItem root (text "type") = some type)
    (limit : ∀ reply, replyOf codec call srv root type w = some reply → reply.strlen < 2 ^ 31)
    (clean : .error ∉ outcomes)
    (returned : (parseServerData codec call (fun _ => true) outcomes srv reqId data w).ret ≠ none) :
    ∃ (f : Frame) (tree : Json) (code : EventErrCode),
      (parseServerData codec call (fun _ => true) outcomes srv reqId data w).wire = f.encode ∧
      f.reqId = reqId ∧ f.len.toNat = f.payload.length ∧ f.payload = (codec.print tree).bytes ∧
      numberItem tree (text "ret") = some (code.code : ℚ) ∧
      Verdict srv (truncate type)
        (parseServerData codec call (fun _ => true) outcomes srv reqId data w).invoked code := by
  have handled :=
    dispatch_handled codec contract (truncate type) (getObjectItem root (text "data")) w
  rcases replyFor_handled handled with ⟨tree, replied, code⟩
  have short := limit _ replied
  have wire := parseServerData_wire parsed typed replied short clean returned
  let f := replyFrame reqId (codec.print tree) short
  simp only [parseServerData, parsed, typed, replied] at wire ⊢
  exact ⟨f, tree, _, wire, rfl, f.len_toNat, rfl, code, verdict_handled handled⟩

def answering : CallbackSem Unit Unit Unit
  | _, .heartbeat, _, _, w => ⟨.succ, some ⟨7, 5⟩, w⟩
  | _, _, _, _, w => ⟨.fail, none, w⟩

def heartbeatServer : MsgServer Unit Unit :=
  ((MsgServer.new 5 fun _ => none).registerEventCb .heartbeat () ()).1

def acceptedData : Json := .object [(text "pid", .number 7), (text "hearbeat", .number 5)]

def acceptedRequest : Json := .object [(text "type", .number 0), (text "data", acceptedData)]

theorem one_matching_reply_heartbeat :
    ∃ (f : Frame) (tree : Json) (code : EventErrCode),
      (parseServerData textCodec answering (fun _ => true)
        [.count 4, .count 2, .again, .count 2, .count 99] heartbeatServer 9
        (textCodec.print acceptedRequest).bytes ()).wire = f.encode ∧
      f.reqId = 9 ∧ f.len.toNat = f.payload.length ∧ f.payload = (textCodec.print tree).bytes ∧
      numberItem tree (text "ret") = some (code.code : ℚ) ∧
      Verdict heartbeatServer 0
        (parseServerData textCodec answering (fun _ => true)
          [.count 4, .count 2, .again, .count 2, .count 99] heartbeatServer 9
          (textCodec.print acceptedRequest).bytes ()).invoked code := by
  have parsed : textCodec.parse (textCodec.print acceptedRequest).bytes = some acceptedRequest :=
    rfl
  have typed : numberItem acceptedRequest (text "type") = some 0 := rfl
  refine one_matching_reply ?_ 9 () parsed typed ?_ (by decide) ?_
  · intro t cb registered notAction req usrData w ret
    cases t <;> first | rfl | cases ret
  · intro reply replied
    obtain rfl := Option.some.inj replied
    decide +kernel
  · decide +kernel

end TaskMonitor
