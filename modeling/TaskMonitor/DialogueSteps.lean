import TaskMonitor.Dialogue
import TaskMonitor.FrameStream
import TaskMonitor.Library.RequestReply
import Mathlib.Data.List.Find

/-! The dialogue of a client and its server, on the level of bytes, is an exchange of questions and
answers over two FIFO channels. -/

namespace TaskMonitor

open CText Cjson RequestReply

section Reading

variable {ρ : Type*}

inductive Reads (parse : Package → Int × ρ) (fs : List Frame) (ahead : List UInt8) :
    Received ρ → Prop where
  | more (rb : RingBuf) (stream : rb.bytes ++ ahead = frameCode.encodeAll fs) :
      Reads parse fs ahead ⟨0, rb, none, none⟩
  | taken (f : Frame) (later : List Frame) (rb : RingBuf) (first : fs = f :: later)
      (stream : rb.bytes ++ ahead = frameCode.encodeAll later) :
      Reads parse fs ahead
        ⟨(parse f.package).1, rb, some f.package, some (parse f.package).2⟩

/-- What is read of a stream of frames: no whole frame yet, or the first of them. -/
theorem recvData_pieces (parse : Package → Int × ρ) {rb : RingBuf} {call : RecvCall}
    {ahead : List UInt8} {fs : List Frame}
    (stream : rb.bytes ++ (call.data ++ ahead) = frameCode.encodeAll fs)
    (accepted : call.accepted = true) (some_read : call.data ≠ []) :
    Reads parse fs ahead (recvData parse rb call) := by
  rw [← List.append_assoc] at stream
  have pre : rb.bytes ++ call.data <+: frameCode.encodeAll fs := ⟨_, stream⟩
  have nonzero : call.data.length ≠ 0 := by simpa using some_read
  have fills : recvData parse rb call = procData parse ⟨rb.bytes ++ call.data⟩ call.mallocOk := by
    simp only [recvData, RingBuf.writeData, accepted, if_true, if_neg nonzero]
  rw [fills, procData]
  rcases frameCode.prefix_cases pre with drained | ⟨f, later, rest, rfl, _, whole, _⟩
  · rw [getAvailablePackage_incomplete (sane_of_stream pre) drained]
    exact .more _ stream
  · have whole : rb.bytes ++ call.data = f.encode ++ rest := whole
    rw [whole, getAvailablePackage_encode]
    cases call.mallocOk with
    | false => exact .more _ (by rw [← whole, stream])
    | true =>
        refine .taken f later ⟨rest⟩ rfl ?_
        rw [whole, SelfDelimiting.encodeAll_cons, List.append_assoc] at stream
        exact List.append_cancel_left stream

theorem recvData_reads (parse : Package → Int × ρ) {rb : RingBuf} {wire : List UInt8}
    {fs : List Frame} {turn : ReadTurn} (stream : rb.bytes ++ wire = frameCode.encodeAll fs)
    (accepted : turn.accepted = true) (some_read : wire.take turn.length ≠ []) :
    Reads parse fs (wire.drop turn.length) (recvData parse rb (turn.call wire)) := by
  have pieces : rb.bytes ++ ((turn.call wire).data ++ wire.drop turn.length) =
      frameCode.encodeAll fs := by
    rw [ReadTurn.call, List.take_append_drop, stream]
  exact recvData_pieces parse pieces accepted some_read

theorem recvData_taken {parse : Package → Int × ρ} {rb : RingBuf} {call : RecvCall}
    {package : Package} (taken : (recvData parse rb call).package = some package) :
    (recvData parse rb call).parsed = some (parse package).2 := by
  rw [recvData_hands, taken]
  rfl

end Reading

namespace MsgClient

variable {κ : Type*}

def idOf (base : UInt32) (n : Nat) : UInt32 := base + UInt32.ofNat n

theorem next_reqId (w : ClientWorld κ) :
    w.client.mCurReqId + 1 = idOf (baseId w) (w.issued + 1) := by
  rw [idOf, baseId, UInt32.ofNat_add]
  grind

theorem idOf_inj {issued : Nat} (few : issued < 2 ^ 32) (base : UInt32) {m n : Nat}
    (first : m ≤ issued) (second : n ≤ issued) : idOf base m = idOf base n ↔ m = n := by
  constructor
  · intro same
    have words : UInt32.ofNat m = UInt32.ofNat n := by
      rw [idOf, idOf] at same
      grind
    have residues := congrArg UInt32.toNat words
    rw [UInt32.toNat_ofNat', UInt32.toNat_ofNat'] at residues
    omega
  · exact congrArg (idOf base)

structure Sendable (a : SendArgs κ) : Prop where
  nonempty : a.data ≠ []
  len : a.len.toNat = a.data.length
  fits : a.data.length + dataHeadLen.toNat < 2 ^ 32
  clean : .error ∉ a.outcomes

structure Question (κ : Type*) where
  reqId : UInt32
  args : SendArgs κ
  sendable : Sendable args

def Question.frame (q : Question κ) : Frame :=
  ⟨q.reqId, q.args.data, q.sendable.nonempty, q.sendable.fits⟩

theorem Question.len (q : Question κ) : q.args.len = q.frame.len := by
  apply UInt32.toNat_inj.mp
  rw [Frame.len_toNat]
  exact q.sendable.len

theorem Question.package_eq (q : Question κ) :
    q.frame.package =
      ⟨q.reqId, q.args.len, htonl q.reqId ++ htonl q.args.len ++ q.args.data⟩ := by
  rw [q.len]
  rfl

def Question.node (q : Question κ) (n : Nat) : MsgRequest κ :=
  ⟨n, q.reqId, q.args.reqType, q.args.cb, q.args.now, q.args.timeout, some n⟩

theorem sendRequest_sends {w : ClientWorld κ} {a : SendArgs κ} (sendable : Sendable a)
    (returned : (sendRequest w a).ret ≠ none) :
    let q : Question κ := ⟨w.client.mCurReqId + 1, a, sendable⟩
    (sendRequest w a).sent = q.frame.encode ∧
      ∃ ticket : Option (MsgRequest κ), (∀ r ∈ ticket, r = q.node (w.issued + 1)) ∧
        (sendRequest w a).world.client.mRequestList = ticket.toList ++ w.client.mRequestList := by
  intro q
  have written : (writeFrame (w.client.mCurReqId + 1) a.len a.data a.outcomes).ret ≠ none →
      (writeFrame (w.client.mCurReqId + 1) a.len a.data a.outcomes).sent =
        q.frame.encode := by
    intro ends
    have whole := writeFrame_clean sendable.clean ends
    rw [whole, sendable.len, List.take_length, q.len]
    rfl
  rw [sendRequest.eq_def] at returned ⊢
  simp only [getNextReqId] at returned ⊢
  split at returned
  · rename_i oneWay
    rw [if_pos oneWay]
    exact ⟨written returned, none, nofun, rfl⟩
  · rename_i waits
    rw [if_neg waits]
    split at returned
    · exact absurd rfl returned
    · rename_i ret wrote
      have sent := written (by rw [wrote]; nofun)
      split
      · exact ⟨sent, none, nofun, rfl⟩
      unfold reqNodeCreate
      dsimp only
      cases a.mallocOk with
      | false => exact ⟨sent, none, nofun, rfl⟩
      | true =>
          cases a.timerOk with
          | false => exact ⟨sent, none, nofun, rfl⟩
          | true =>
              refine ⟨sent, some (q.node (w.issued + 1)), ?_, rfl⟩
              intro r member
              exact (Option.mem_some_iff.mp member).symm

theorem sendRequest_counts (w : ClientWorld κ) (a : SendArgs κ) :
    (sendRequest w a).world.issued = w.issued + 1 ∧
      (sendRequest w a).world.client.mCurReqId = w.client.mCurReqId + 1 ∧
      (sendRequest w a).world.client.mRb = w.client.mRb := by
  rw [sendRequest.eq_def]
  simp only [getNextReqId]
  split
  · exact ⟨rfl, rfl, rfl⟩
  split
  · exact ⟨rfl, rfl, rfl⟩
  split
  · exact ⟨rfl, rfl, rfl⟩
  unfold reqNodeCreate
  dsimp only
  cases a.mallocOk with
  | false => exact ⟨rfl, rfl, rfl⟩
  | true => cases a.timerOk <;> exact ⟨rfl, rfl, rfl⟩

theorem invoke_quiet (w : ClientWorld κ) (req : MsgRequest κ) (args : Option CbArgs)
    (cause : Cause) :
    (invoke w req args cause []).1 = w ∧
      calls (invoke w req args cause []).2 = callOf req args cause := by
  simp only [invoke, callOf]
  cases req.cb with
  | none => exact ⟨rfl, rfl⟩
  | some cb => cases args <;> exact ⟨rfl, rfl⟩

theorem retire_ring (w : ClientWorld κ) (req : MsgRequest κ) (rb : RingBuf) :
    (retire { w with client := { w.client with mRb := rb } } req).1 =
      { (retire w req).1 with client := { (retire w req).1.client with mRb := rb } } := by
  rw [retire, retire, destroyReqNode, destroyReqNode]
  cases req.timer <;> rfl

def callsFor (codec : Codec) (req : MsgRequest κ) (reply : Frame) : List (Call κ) :=
  match codec.parse reply.payload with
  | none => []
  | some root =>
      match getObjectItem root (text "ret") with
      | none => []
      | some retval =>
          callOf req (processRspData req retval.valueint (getObjectItem root (text "data"))).2
            (.frame reply.reqId)

/-- A payload that ends the wait for it: the library takes it, and it has a `ret`. -/
def readable (codec : Codec) (payload : List UInt8) : Bool :=
  ((codec.parse payload).bind (getObjectItem · (text "ret"))).isSome

theorem parseClientData_unreadable {codec : Codec} {payload : List UInt8}
    (unreadable : readable codec payload = false) (w : ClientWorld κ) (reqId : UInt32) :
    (parseClientData codec w reqId payload []).2 = (w, []) := by
  simp only [readable, Option.isSome_eq_false_iff, Option.isNone_iff_eq_none,
    Option.bind_eq_none_iff] at unreadable
  rw [parseClientData]
  split
  · rfl
  · rename_i root parsed
    rw [unreadable root parsed]

theorem parseClientData_unknown {codec : Codec} {w : ClientWorld κ} {reqId : UInt32}
    (unknown : w.client.mRequestList.find? (·.reqId = reqId) = none) (payload : List UInt8) :
    (parseClientData codec w reqId payload []).2 = (w, []) := by
  rw [parseClientData]
  split
  · rfl
  split
  · rfl
  · simp only [unknown]

theorem parseClientData_found {codec : Codec} {w : ClientWorld κ} {reply : Frame}
    {req : MsgRequest κ} (reads : readable codec reply.payload = true)
    (found : w.client.mRequestList.find? (·.reqId = reply.reqId) = some req) :
    (parseClientData codec w reply.reqId reply.payload []).2.1 = (retire w req).1 ∧
      calls (parseClientData codec w reply.reqId reply.payload []).2.2 =
        callsFor codec req reply := by
  rcases Option.isSome_iff_exists.mp reads with ⟨retval, both⟩
  rcases Option.bind_eq_some_iff.mp both with ⟨root, parsed, answer⟩
  have settled := parseClientData_settled [] parsed answer found
  simp only [callsFor, parsed, answer]
  refine ⟨?_, settled.calls⟩
  simp only [parseClientData, parsed, answer, found]
  rw [(invoke_quiet w req _ _).1]

end MsgClient

namespace MsgServer

variable {κ υ σ : Type*}

def replyTo (codec : Codec) (call : CallbackSem κ υ σ) (alloc : AllocSite → Bool)
    (srv : MsgServer κ υ) (payload : List UInt8) (w : σ) : Option CString := do
  let root ← codec.parse payload
  let type ← numberItem root (text "type")
  replyFor codec alloc
    (dispatch codec call alloc srv (truncate type) (getObjectItem root (text "data")) w)

def answerFrame (reqId : UInt32) (reply : CString) : Option Frame :=
  if short : reply.strlen < 2 ^ 31 then some (replyFrame reqId reply short) else none

theorem answerFrame_reqId {reqId : UInt32} {reply : CString} {f : Frame}
    (answer : answerFrame reqId reply = some f) : f.reqId = reqId := by
  rw [answerFrame] at answer
  split at answer
  · obtain rfl := Option.some.inj answer
    rfl
  · cases answer

theorem answerFrame_payload {reqId : UInt32} {reply : CString} {f : Frame}
    (answer : answerFrame reqId reply = some f) : f.payload = reply.bytes := by
  rw [answerFrame] at answer
  split at answer
  · obtain rfl := Option.some.inj answer
    rfl
  · cases answer

theorem parseServerData_sends {codec : Codec} {call : CallbackSem κ υ σ} {alloc : AllocSite → Bool}
    {outcomes : List WriteOutcome} {srv : MsgServer κ υ} {reqId : UInt32} {payload : List UInt8}
    {w : σ} (clean : .error ∉ outcomes)
    (returned : (parseServerData codec call alloc outcomes srv reqId payload w).ret ≠ none)
    (limit : ∀ reply, replyTo codec call alloc srv payload w = some reply →
      reply.strlen < 2 ^ 31) :
    (parseServerData codec call alloc outcomes srv reqId payload w).wire = frameCode.encodeAll
      ((replyTo codec call alloc srv payload w).bind (answerFrame reqId)).toList := by
  cases parsed : codec.parse payload with
  | none => simp [parseServerData, replyTo, parsed]
  | some root =>
      cases typed : numberItem root (text "type") with
      | none => simp [parseServerData, replyTo, parsed, typed]
      | some type =>
          have same : replyTo codec call alloc srv payload w =
              replyFor codec alloc (dispatch codec call alloc srv (truncate type)
                (getObjectItem root (text "data")) w) := by
            simp [replyTo, parsed, typed]
          rw [same] at limit ⊢
          cases replied : replyFor codec alloc (dispatch codec call alloc srv (truncate type)
              (getObjectItem root (text "data")) w) with
          | none => simp [parseServerData, parsed, typed, replied]
          | some reply =>
              have short := limit reply replied
              have answer : answerFrame reqId reply = some (replyFrame reqId reply short) :=
                dif_pos short
              rw [parseServerData_wire parsed typed replied short clean returned, Option.bind_some,
                answer, Option.toList_some, SelfDelimiting.encodeAll_cons,
                SelfDelimiting.encodeAll_nil, List.append_nil]
              rfl

end MsgServer

namespace Dialogue

open MsgServer MsgClient

variable {κ κ' υ γ σ : Type*}

def service (codec : Codec) (call : γ → CallbackSem κ' υ σ) (srv : MsgServer κ' υ) :
    Service (Question κ) Frame σ (ServeEnv γ) where
  serve env q w :=
    ((replyTo codec (call env.callback) env.alloc srv q.args.data w).bind (answerFrame q.reqId),
      (parseServerData codec (call env.callback) env.alloc env.outcomes srv q.reqId q.args.data
        w).world)
  settles f := MsgClient.readable codec f.payload

def image (codec : Codec) (call : γ → CallbackSem κ' υ σ) (srv : MsgServer κ' υ) :
    Out (Question κ) Frame (MsgRequest κ) σ (ServeEnv γ) → List (DialogueOut κ κ' υ γ σ)
  | .asked n q _ => [.asked n q.reqId q.args]
  | .served _ q env before =>
      [.handled q.frame.package env before (parseServerData codec (call env.callback) env.alloc
        env.outcomes srv q.reqId q.args.data before).invoked]
  | .received _ f ticket =>
      [.answered f.package (ticket.elim [] fun req => MsgClient.callsFor codec req f)]
  | .expired _ req =>
      (MsgClient.callOf req (some ((EventErrCode.timeout.code : Int), none)) .timeout).map .timedOut

/-- A step on sockets that work, with ring buffers that take what is read and fewer than 2^32
requests on the connection. -/
def Sound (codec : Codec) (call : γ → CallbackSem κ' υ σ) (d : Dialogue κ κ' υ σ) :
    DialogueEvent κ γ σ → Prop
  | .send a => MsgClient.Sendable a ∧ (MsgClient.sendRequest d.world a).ret ≠ none ∧
      d.world.issued + 1 < 2 ^ 32
  | .serverReads turn env => turn.accepted = true ∧ .error ∉ env.outcomes ∧
      ∀ package, (MsgServer.recvData codec (call env.callback)
          ⟨turn.call d.toServer, env.alloc, env.outcomes⟩ d.server d.state).package =
            some package →
        (parsePackage codec (call env.callback) ⟨turn.call d.toServer, env.alloc, env.outcomes⟩
          d.server d.state package).2.ret ≠ none ∧
        ∀ reply, replyTo codec (call env.callback) env.alloc d.server
            (package.data.drop dataHeadLen.toNat) d.state = some reply → reply.strlen < 2 ^ 31
  | .clientReads turn => turn.accepted = true
  | _ => True

/-- A dialogue on bytes and the exchange that it stands for. -/
structure Mirrors (srv : MsgServer κ' υ) (base : UInt32) (d : Dialogue κ κ' υ σ)
    (x : Exchange (Question κ) Frame (MsgRequest κ) σ) : Prop where
  issued : x.issued = d.world.issued
  few : d.world.issued < 2 ^ 32
  pending : x.pending = d.world.client.mRequestList.map fun req => (req.node, req)
  linked : Linked d.world
  based : baseId d.world = base
  toServer : d.server.mRb.bytes ++ d.toServer = frameCode.encodeAll (x.questions.map (·.2.frame))
  toClient : d.world.client.mRb.bytes ++ d.toClient =
    frameCode.encodeAll (x.answers.map Prod.snd)
  questions : ∀ m ∈ x.questions, m.2.reqId = idOf base m.1 ∧ m.1 ≤ d.world.issued
  answers : ∀ m ∈ x.answers, m.2.reqId = idOf base m.1 ∧ m.1 ≤ d.world.issued
  state : x.world = d.state
  server : d.server = { srv with mRb := d.server.mRb }

theorem mirrors_start (fd : Int) (uninit : UInt32) (srv : MsgServer κ' υ) (w : σ) :
    Mirrors srv uninit (start (κ := κ) fd uninit srv w) (Exchange.start w) where
  issued := rfl
  few := Nat.two_pow_pos 32
  pending := rfl
  linked := MsgClient.linked_start fd uninit
  based := by simp [start, baseId, MsgClient.start, MsgClient.new]
  toServer := rfl
  toClient := rfl
  questions := nofun
  answers := nofun
  state := rfl
  server := rfl

variable {codec : Codec} {call : γ → CallbackSem κ' υ σ} {srv : MsgServer κ' υ} {base : UInt32}
  {d : Dialogue κ κ' υ σ} {x : Exchange (Question κ) Frame (MsgRequest κ) σ}

theorem Mirrors.ticketOf (mirrors : Mirrors srv base d x) (n : Nat) :
    x.ticketOf n = d.world.client.mRequestList.find? (·.node = n) := by
  rw [Exchange.ticketOf, mirrors.pending, List.find?_map, Option.map_map]
  exact Option.map_id'

theorem Mirrors.settle (mirrors : Mirrors srv base d x) (n : Nat) :
    (x.settle n).pending =
      (d.world.client.mRequestList.filter (·.node ≠ n)).map fun req => (req.node, req) := by
  rw [Exchange.settle, mirrors.pending, List.filter_map]
  rfl

theorem Mirrors.found (mirrors : Mirrors srv base d x) {m : Nat × Frame} (answer : m ∈ x.answers) :
    d.world.client.mRequestList.find? (·.reqId = m.2.reqId) = x.ticketOf m.1 := by
  rcases mirrors.answers m answer with ⟨id, bound⟩
  rw [mirrors.ticketOf, id]
  apply List.find?_congr
  intro req member
  rw [mirrors.linked.ids req member, mirrors.based]
  exact decide_eq_decide.mpr
    (idOf_inj mirrors.few base (mirrors.linked.issued req member) bound)

def Granted (base : UInt32) (n : Nat) (q : Question κ) (ticket : Option (MsgRequest κ)) : Prop :=
  q.reqId = idOf base n ∧ ∀ req ∈ ticket, req = q.node n

def Matched (codec : Codec) (call : γ → CallbackSem κ' υ σ) (srv : MsgServer κ' υ)
    (base : UInt32) (good : Question κ → Prop) (x : Exchange (Question κ) Frame (MsgRequest κ) σ)
    (r : Dialogue κ κ' υ σ × List (DialogueOut κ κ' υ γ σ)) (answers : Prop) : Prop :=
  ∃ es, Mirrors srv base r.1 ((service codec call srv).machine.run x es) ∧
    r.2 = ((service codec call srv).machine.trace x es).flatMap (image codec call srv) ∧
    (service codec call srv).machine.AllSteps (Service.Grants (Granted base)) x es ∧
    (answers → (service codec call srv).machine.AllSteps
      ((service codec call srv).Answers good) x es)

theorem matched_still (mirrors : Mirrors srv base d x) (good : Question κ → Prop) (answers : Prop) :
    Matched codec call srv base good x (d, []) answers :=
  ⟨[], mirrors, rfl, trivial, fun _ => trivial⟩

theorem send_matched (mirrors : Mirrors srv base d x) {a : SendArgs κ}
    (sendable : MsgClient.Sendable a) (returned : (MsgClient.sendRequest d.world a).ret ≠ none)
    (few : d.world.issued + 1 < 2 ^ 32) (good : Question κ → Prop) :
    Matched codec call srv base good x (d.send a)
      (good ⟨d.world.client.mCurReqId + 1, a, sendable⟩) := by
  rcases MsgClient.sendRequest_sends sendable returned with ⟨sent, ticket, node, list⟩
  rcases MsgClient.sendRequest_counts d.world a with ⟨issued, current, ring⟩
  have grown := (MsgClient.sendRequest_grown d.world a).1
  let q : Question κ := ⟨d.world.client.mCurReqId + 1, a, sendable⟩
  have granted : Granted base (x.issued + 1) q ticket := by
    rw [mirrors.issued, ← mirrors.based]
    exact ⟨MsgClient.next_reqId d.world, node⟩
  refine ⟨[.ask q ticket], ?_, ?_, ⟨granted, trivial⟩, fun fine => ⟨fine, trivial⟩⟩
  · constructor
    · exact (congrArg (· + 1) mirrors.issued).trans issued.symm
    · rw [send, issued]
      exact few
    · have numbered : ticket.map (fun req => (x.issued + 1, req)) =
          ticket.map (fun req => (req.node, req)) := by
        apply Option.map_congr
        intro req member
        rw [granted.2 req member]
        rfl
      have parts : (ticket.map fun req => (x.issued + 1, req)).toList ++ x.pending =
          (ticket.toList ++ d.world.client.mRequestList).map fun req => (req.node, req) := by
        rw [numbered, mirrors.pending, List.map_append, Option.toList_map]
      rw [send, list, ← parts]
      rfl
    · exact mirrors.linked.grown grown
    · exact grown.base.trans mirrors.based
    · have bytes : d.server.mRb.bytes ++ (d.toServer ++ q.frame.encode) =
          frameCode.encodeAll (x.questions.map (·.2.frame) ++ [q.frame]) := by
        rw [← List.append_assoc, mirrors.toServer, SelfDelimiting.encodeAll_append,
          SelfDelimiting.encodeAll_cons, SelfDelimiting.encodeAll_nil, List.append_nil]
        rfl
      rw [send, sent, bytes]
      simp [StepMachine.next, Service.machine, Service.step]
    · rw [send, ring]
      exact mirrors.toClient
    · intro m member
      rcases List.mem_append.mp member with old | new
      · rcases mirrors.questions m old with ⟨id, bound⟩
        rw [send, issued]
        exact ⟨id, by omega⟩
      · obtain rfl := List.mem_singleton.mp new
        rw [send, issued, ← mirrors.issued]
        exact ⟨granted.1, le_rfl⟩
    · intro m member
      rcases mirrors.answers m member with ⟨id, bound⟩
      rw [send, issued]
      exact ⟨id, by omega⟩
    · exact mirrors.state
    · exact mirrors.server
  · rw [send, issued, current, ← mirrors.issued]
    rfl

theorem Mirrors.serverRing (mirrors : Mirrors srv base d x) {questions : List (Nat × Question κ)}
    (fewer : questions ⊆ x.questions) {rb : RingBuf} {wire : List UInt8}
    (stream : rb.bytes ++ wire = frameCode.encodeAll (questions.map (·.2.frame))) (up : Bool) :
    Mirrors srv base { d with server := { d.server with mRb := rb }, toServer := wire, up := up }
      { x with questions := questions } where
  issued := mirrors.issued
  few := mirrors.few
  pending := mirrors.pending
  linked := mirrors.linked
  based := mirrors.based
  toServer := stream
  toClient := mirrors.toClient
  questions := fun m member => mirrors.questions m (fewer member)
  answers := mirrors.answers
  state := mirrors.state
  server := by rw [mirrors.server]

theorem Mirrors.replied (mirrors : Mirrors srv base d x) {n : Nat} {reply : Option Frame}
    (numbered : ∀ f ∈ reply, f.reqId = idOf base n) (bound : n ≤ d.world.issued) (w : σ) :
    Mirrors srv base
      { d with toClient := d.toClient ++ frameCode.encodeAll reply.toList, state := w }
      { x with answers := x.answers ++ (reply.map fun b => (n, b)).toList, world := w } where
  issued := mirrors.issued
  few := mirrors.few
  pending := mirrors.pending
  linked := mirrors.linked
  based := mirrors.based
  toServer := mirrors.toServer
  toClient := by
    have frames : ((reply.map fun b => (n, b)).toList.map Prod.snd) = reply.toList := by
      cases reply <;> rfl
    calc
      d.world.client.mRb.bytes ++ (d.toClient ++ frameCode.encodeAll reply.toList) =
          d.world.client.mRb.bytes ++ d.toClient ++ frameCode.encodeAll reply.toList := by
        rw [List.append_assoc]
      _ = frameCode.encodeAll (x.answers.map Prod.snd ++ reply.toList) := by
        rw [mirrors.toClient, SelfDelimiting.encodeAll_append]
      _ = frameCode.encodeAll
          ((x.answers ++ (reply.map fun b => (n, b)).toList).map Prod.snd) := by
        rw [List.map_append, frames]
  questions := mirrors.questions
  answers := by
    intro m member
    cases List.mem_append.mp member with
    | inl old => exact mirrors.answers m old
    | inr new =>
        simp only [Option.mem_toList, Option.map_eq_some_iff] at new
        rcases new with ⟨b, given, rfl⟩
        exact ⟨numbered b given, bound⟩
  state := rfl
  server := mirrors.server

theorem serverReads_matched (mirrors : Mirrors srv base d x) {turn : ReadTurn} {env : ServeEnv γ}
    (sound : Sound codec call d (.serverReads turn env)) (good : Question κ → Prop) :
    Matched codec call srv base good x (d.serverReads codec call turn env)
      (∀ q : Question κ, (MsgServer.recvData codec (call env.callback)
          ⟨turn.call d.toServer, env.alloc, env.outcomes⟩ d.server d.state).package =
            some q.frame.package → good q →
        ∃ reply, ((service codec call srv).serve env q d.state).1 = some reply ∧
          MsgClient.readable codec reply.payload = true) := by
  rcases sound with ⟨accepted, clean, returns⟩
  rw [serverReads]
  split
  · exact matched_still mirrors good _
  rename_i reads
  rw [not_or] at reads
  have reading := recvData_reads
    (parsePackage codec (call env.callback) ⟨turn.call d.toServer, env.alloc, env.outcomes⟩
      d.server d.state) mirrors.toServer accepted reads.2
  have ring : d.server = { srv with mRb := d.server.mRb } := mirrors.server
  simp only [MsgServer.recvData] at returns ⊢
  generalize TaskMonitor.recvData _ d.server.mRb _ = r at reading returns ⊢
  -- one reading handles one whole frame or none
  cases reading with
  | more rb stream =>
      refine ⟨[], ?_, rfl, trivial, fun _ => trivial⟩
      have buffered := mirrors.serverRing (List.Subset.refl _) stream true
      simpa using buffered
  | taken f later rb first stream =>
      rcases returns f.package rfl with ⟨ends, short⟩
      rcases List.map_eq_cons_iff.mp first with ⟨⟨n, q⟩, questions, queue, rfl, rfl⟩
      rcases mirrors.questions (n, q) (by simp [queue]) with ⟨number, bound⟩
      let handled := parseServerData codec (call env.callback) env.alloc env.outcomes d.server
        q.reqId q.args.data d.state
      let reply := (replyTo codec (call env.callback) env.alloc d.server q.args.data d.state).bind
        (answerFrame q.reqId)
      have sends : handled.wire = frameCode.encodeAll reply.toList :=
        parseServerData_sends clean ends short
      have serves : (service codec call srv).serve env q x.world = (reply, handled.world) := by
        simp only [reply, handled]
        rw [mirrors.state, ring]
        rfl
      have numbered : ∀ b ∈ reply, b.reqId = idOf base n := by
        intro b given
        rcases Option.bind_eq_some_iff.mp given with ⟨text, _, answer⟩
        exact (answerFrame_reqId answer).trans number
      have stepped := (service codec call srv).step_serve queue env
      rw [serves] at stepped
      refine ⟨[.serve env], ?_, ?_, ⟨trivial, trivial⟩, ?_⟩
      · have fewer : questions ⊆ x.questions := queue ▸ List.subset_cons_self _ _
        have served (up : Bool) :=
          (mirrors.serverRing fewer stream up).replied numbered bound handled.world
        rw [← sends] at served
        change Mirrors srv base _ ((service codec call srv).step x (.serve env)).1
        rw [stepped]
        exact served _
      · rw [StepMachine.trace_one]
        change _ = ((service codec call srv).step x (.serve env)).2.flatMap _
        rw [stepped, mirrors.state, ring]
        rfl
      · intro answers
        refine ⟨?_, trivial⟩
        intro m question later same fine
        rw [queue] at same
        obtain ⟨rfl, rfl⟩ := Prod.mk.inj (List.cons.inj same).1
        rw [mirrors.state]
        exact answers q rfl fine

theorem Mirrors.retired (mirrors : Mirrors srv base d x) {n : Nat} {req : MsgRequest κ}
    (waits : x.ticketOf n = some req) :
    Mirrors srv base { d with world := (MsgClient.retire d.world req).1 } (x.settle n) := by
  have number : req.node = n := by
    rw [mirrors.ticketOf] at waits
    simpa using List.find?_some waits
  rcases MsgClient.retire_shrunk d.world req with ⟨filtered, shrunk, _⟩
  have ring := congrArg (·.client.mRb) (MsgClient.retire_ring d.world req d.world.client.mRb)
  constructor
  · exact mirrors.issued.trans shrunk.issued.symm
  · exact shrunk.issued ▸ mirrors.few
  · have settled := mirrors.settle n
    rw [← number, ← filtered] at settled
    rw [← number]
    exact settled
  · exact mirrors.linked.shrunk shrunk
  · exact shrunk.base.trans mirrors.based
  · exact mirrors.toServer
  · calc
      (MsgClient.retire d.world req).1.client.mRb.bytes ++ d.toClient =
          d.world.client.mRb.bytes ++ d.toClient := congrArg (·.bytes ++ d.toClient) ring
      _ = frameCode.encodeAll (x.answers.map Prod.snd) := mirrors.toClient
  · exact shrunk.issued ▸ mirrors.questions
  · exact shrunk.issued ▸ mirrors.answers
  · exact mirrors.state
  · exact mirrors.server

theorem Mirrors.clientRing (mirrors : Mirrors srv base d x) {answers : List (Nat × Frame)}
    (fewer : answers ⊆ x.answers) {rb : RingBuf} {wire : List UInt8}
    (stream : rb.bytes ++ wire = frameCode.encodeAll (answers.map Prod.snd)) :
    Mirrors srv base
      { d with
        world := { d.world with client := { d.world.client with mRb := rb } }
        toClient := wire }
      { x with answers := answers } where
  issued := mirrors.issued
  few := mirrors.few
  pending := mirrors.pending
  linked := ⟨mirrors.linked.issued, mirrors.linked.nodup, mirrors.linked.ids⟩
  based := mirrors.based
  toServer := mirrors.toServer
  toClient := stream
  questions := mirrors.questions
  answers := fun m member => mirrors.answers m (fewer member)
  state := mirrors.state
  server := mirrors.server

theorem clientReads_matched (mirrors : Mirrors srv base d x) {turn : ReadTurn}
    (accepted : turn.accepted = true) (good : Question κ → Prop) :
    Matched codec call srv base good x (d.clientReads codec turn) True := by
  rw [clientReads]
  split
  · exact matched_still mirrors good _
  rename_i reads
  have reading := recvData_reads (MsgClient.parsePackage codec [] d.world) mirrors.toClient accepted
    reads
  simp only [MsgClient.recvData]
  generalize TaskMonitor.recvData _ d.world.client.mRb _ = r at reading ⊢
  cases reading with
  | more rb stream =>
      exact ⟨[], mirrors.clientRing (List.Subset.refl _) stream, rfl, trivial, fun _ => trivial⟩
  | taken f later rb first stream =>
      rcases List.map_eq_cons_iff.mp first with ⟨⟨n, f⟩, answers, queue, rfl, rfl⟩
      have found := mirrors.found (m := (n, f)) (by rw [queue]; exact List.mem_cons_self)
      have parsed : MsgClient.parsePackage codec [] d.world f.package =
          MsgClient.parseClientData codec d.world f.reqId f.payload [] := rfl
      have fewer : answers ⊆ x.answers := queue ▸ List.subset_cons_self _ _
      have taken := mirrors.clientRing fewer stream
      rw [parsed]
      simp only [Option.map_some, Option.getD_some]
      by_cases wanted : MsgClient.readable codec f.payload = true ∧ (x.ticketOf n).isSome
      · rcases Option.isSome_iff_exists.mp wanted.2 with ⟨req, waits⟩
        have stepped := (service codec call srv).step_settled queue wanted.1 waits
        rcases MsgClient.parseClientData_found wanted.1 (found.trans waits) with ⟨world, called⟩
        refine ⟨[.receive], ?_, ?_, ⟨trivial, trivial⟩, fun _ => ⟨trivial, trivial⟩⟩
        · change Mirrors srv base _ ((service codec call srv).step x .receive).1
          rw [stepped, world, ← MsgClient.retire_ring]
          exact taken.retired waits
        · rw [StepMachine.trace_one]
          change _ = ((service codec call srv).step x .receive).2.flatMap _
          rw [stepped, called]
          rfl
      · have unwanted : MsgClient.readable codec f.payload = true → x.ticketOf n = none := by
          intro reads
          simpa [reads] using wanted
        have stepped := (service codec call srv).step_dropped queue unwanted
        have still : (MsgClient.parseClientData codec d.world f.reqId f.payload []).2 =
            (d.world, []) := by
          cases reads : MsgClient.readable codec f.payload with
          | false => exact MsgClient.parseClientData_unreadable reads d.world f.reqId
          | true => exact MsgClient.parseClientData_unknown (found.trans (unwanted reads)) f.payload
        refine ⟨[.receive], ?_, ?_, ⟨trivial, trivial⟩, fun _ => ⟨trivial, trivial⟩⟩
        · change Mirrors srv base _ ((service codec call srv).step x .receive).1
          rw [stepped, still]
          exact taken
        · rw [StepMachine.trace_one]
          change _ = ((service codec call srv).step x .receive).2.flatMap _
          rw [stepped, still]
          rfl

theorem expire_matched (mirrors : Mirrors srv base d x) (timer : Nat) (good : Question κ → Prop) :
    Matched codec call srv base good x (d.expire timer) True := by
  rw [expire]
  split
  · exact matched_still mirrors good _
  rename_i node data _
  cases waits : x.ticketOf data with
  | none =>
      have missing := (mirrors.ticketOf data).symm.trans waits
      simp only [MsgClient.msgClientReqTimerCb, missing]
      exact matched_still mirrors good _
  | some req =>
      have found := (mirrors.ticketOf data).symm.trans waits
      rcases MsgClient.invoke_quiet d.world req (some ((EventErrCode.timeout.code : Int), none))
        .timeout with ⟨world, called⟩
      rcases MsgClient.retire_shrunk d.world req with ⟨_, _, silent⟩
      simp only [MsgClient.msgClientReqTimerCb, found]
      rw [world, MsgClient.calls_append, called, silent, List.append_nil]
      refine ⟨[.expire data], ?_, ?_, ⟨trivial, trivial⟩, fun _ => ⟨trivial, trivial⟩⟩
      · change Mirrors srv base _ ((service codec call srv).step x (.expire data)).1
        simp only [Service.step, waits]
        exact mirrors.retired waits
      · rw [StepMachine.trace_one]
        change _ = ((service codec call srv).step x (.expire data)).2.flatMap _
        simp only [Service.step, waits]
        simp [image]

theorem others_matched (mirrors : Mirrors srv base d x) (w : σ) (good : Question κ → Prop) :
    Matched codec call srv base good x (step codec call d (.others w)) True :=
  ⟨[.others w], { mirrors with state := rfl }, rfl, ⟨trivial, trivial⟩, fun _ => ⟨trivial, trivial⟩⟩

end Dialogue

end TaskMonitor
