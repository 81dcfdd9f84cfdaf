import TaskMonitor.DialogueRuns

/-! What holds of whole dialogues: in which order requests are handled, which reply a callback gets,
and that nothing is lost on the way. -/

namespace TaskMonitor

open CText Cjson RequestReply MsgServer MsgClient

namespace Dialogue

variable {κ κ' υ γ σ : Type*} {codec : Codec} {call : γ → CallbackSem κ' υ σ}
  {srv : MsgServer κ' υ}

/-- The callbacks that a connection registers leave a reply whenever they succeed. -/
theorem connectionServer_contract (env : CbEnv) (fd : Int) (uninit : EventType → Option Nat)
    (self : Nat) : Contract (coreCallbacks env) (connectionServer fd uninit self) := by
  intro type cb registered other req usrData w ret
  cases type with
  | heartbeat =>
      obtain rfl : CoreCb.processHeartbeat = cb := Option.some.inj registered
      simp only [coreCallbacks, processHeartbeat] at ret ⊢
      split at ret
      · rename_i allocated
        rw [if_pos allocated]
        rfl
      · cases ret
  | queryAll =>
      obtain rfl : CoreCb.processGetAllTask = cb := Option.some.inj registered
      simp only [coreCallbacks, processGetAllTask] at ret ⊢
      split at ret
      · rename_i allocated
        rw [if_pos allocated]
        rfl
      · cases ret
  | queryTask =>
      obtain rfl : CoreCb.processGetSingleTask = cb := Option.some.inj registered
      simp only [coreCallbacks, processGetSingleTask] at ret ⊢
      split at ret
      · cases ret
      · split at ret
        · rename_i allocated
          rw [if_pos allocated]
          rfl
        · cases ret
  | taskAction => exact absurd rfl other
  | max => cases registered

def haltQuestion : Question Unit where
  reqId := 1
  args := ⟨.taskAction, stopRequest, 41, some (), 3, 0, true, true,
    [.count 4, .count 4, .count 99]⟩
  sendable := ⟨by decide +kernel, by decide +kernel, by decide +kernel, by decide⟩

def haltTurn : ReadTurn := ⟨49, true, true⟩

def plainServe : ServeEnv CbEnv := ⟨fun _ => true, wholeWrites, plainEnv⟩

def haltRun : List (DialogueEvent Unit CbEnv CoreWorld) :=
  [.send haltQuestion.args, .serverReads haltTurn plainServe, .clientReads ⟨99, true, true⟩]

abbrev daemonServer : MsgServer CoreCb Nat := connectionServer 7 (fun _ => none) 0

abbrev haltStart : Dialogue Unit CoreCb Nat CoreWorld := start 7 0 daemonServer oneTask

abbrev haltMachine : StepMachine (Dialogue Unit CoreCb Nat CoreWorld)
    (DialogueEvent Unit CbEnv CoreWorld) (DialogueOut Unit CoreCb Nat CbEnv CoreWorld) :=
  machine textCodec coreCallbacks

theorem halt_meets : haltMachine.AllSteps
    (fun d e => Sound textCodec coreCallbacks d e ∧ Prompt textCodec coreCallbacks d e)
    haltStart haltRun := by
  let request : Json := .object [(text "type", .number 3), (text "data", stopData)]
  have parsed : textCodec.parse haltQuestion.args.data = some request := rfl
  have typed : numberItem request (text "type") = some 3 := rfl
  let d := haltMachine.next haltStart (.send haltQuestion.args)
  have complete : taken textCodec coreCallbacks d haltTurn plainServe =
      some haltQuestion.frame.package := by
    decide +kernel
  have replied : replyTo textCodec (coreCallbacks plainEnv) (fun _ => true) d.server
      haltQuestion.args.data d.state = some (textCodec.print (retTree true .succ)) := by
    decide +kernel
  have sound := sound_serving complete rfl (by decide) (by decide +kernel) replied
    (by decide +kernel)
  have serves := serves_serving complete (fun _ => rfl) parsed typed rfl
    (textCodec_retTree true .succ)
  exact ⟨⟨⟨haltQuestion.sendable, by decide +kernel, by decide +kernel⟩, request, 3, parsed, typed⟩,
    ⟨sound, serves⟩, ⟨rfl, trivial⟩, trivial⟩

theorem halt_sound : haltMachine.AllSteps (Sound textCodec coreCallbacks) haltStart haltRun :=
  ((haltMachine.allSteps_and _ _ _ _).mp halt_meets).1

def answeredCalls : DialogueOut κ κ' υ γ σ → Option (Package × List (Call κ))
  | .answered package calls => some (package, calls)
  | _ => none

theorem mem_of_answeredCalls {outs : List (DialogueOut κ κ' υ γ σ)} {package : Package}
    {calls : List (Call κ)} (member : (package, calls) ∈ outs.filterMap answeredCalls) :
    .answered package calls ∈ outs := by
  rcases List.mem_filterMap.mp member with ⟨o, emitted, same⟩
  cases o with
  | answered package' calls' =>
      obtain ⟨rfl, rfl⟩ := Prod.mk.inj (Option.some.inj same)
      exact emitted
  | asked => cases same
  | handled => cases same
  | timedOut => cases same

/-- In both directions, what has been taken out and what is still on the way are what was put in,
in the same order: a frame for each request, and a frame for each reply. No two requests have the
same id. -/
theorem dialogue_conserves (fd : Int) (uninit : UInt32) (srv : MsgServer κ' υ) (w : σ)
    {es : List (DialogueEvent κ γ σ)}
    (sound : (machine codec call).AllSteps (Sound codec call) (start fd uninit srv w) es) :
    let d := (machine codec call).run (start fd uninit srv w) es
    let outs := (machine codec call).trace (start fd uninit srv w) es
    ∃ requests replies : List Frame,
      d.server.mRb.bytes ++ d.toServer = frameCode.encodeAll requests ∧
      d.world.client.mRb.bytes ++ d.toClient = frameCode.encodeAll replies ∧
      outs.filterMap asked? = outs.filterMap handled? ++ requests.map Frame.package ∧
      outs.filterMap (replied? codec call srv) =
        outs.filterMap answered? ++ replies.map Frame.package ∧
      ((outs.filterMap asked?).map Package.reqId).Nodup := by
  intro d outs
  rcases requests_conserved sound with ⟨requests, toServer, asked, once⟩
  rcases replies_conserved sound with ⟨replies, toClient, answered⟩
  exact ⟨requests, replies, toServer, toClient, asked, answered, once⟩

theorem dialogue_conserves_stop :
    let d := haltMachine.run haltStart haltRun
    let outs := haltMachine.trace haltStart haltRun
    ∃ requests replies : List Frame,
      d.server.mRb.bytes ++ d.toServer = frameCode.encodeAll requests ∧
      d.world.client.mRb.bytes ++ d.toClient = frameCode.encodeAll replies ∧
      outs.filterMap asked? = outs.filterMap handled? ++ requests.map Frame.package ∧
      outs.filterMap (replied? textCodec coreCallbacks daemonServer) =
        outs.filterMap answered? ++ replies.map Frame.package ∧
      ((outs.filterMap asked?).map Package.reqId).Nodup :=
  dialogue_conserves 7 0 daemonServer oneTask halt_sound

def haltCall : Call Unit := ⟨1, (), 0, none, .frame 1⟩

def haltReply : Package :=
  (replyFrame 1 (textCodec.print (retTree true .succ)) (by decide +kernel)).package

theorem halt_answered :
    .answered haltReply [haltCall] ∈ haltMachine.trace haltStart haltRun := by
  apply mem_of_answeredCalls
  decide +kernel

/-- A callback that a reply leads to gets the reply to the very request it was sent with: the
server has handled that request, in that frame, and the client has got its answer. -/
theorem reply_agreement {fd : Int} {uninit : UInt32} {w : σ} {es : List (DialogueEvent κ γ σ)}
    (sound : (machine codec call).AllSteps (Sound codec call) (start fd uninit srv w) es)
    {package : Package} {calls : List (Call κ)} {c : Call κ}
    (answered : .answered package calls ∈ (machine codec call).trace (start fd uninit srv w) es)
    (called : c ∈ calls) :
    let outs := (machine codec call).trace (start fd uninit srv w) es
    ∃ reqId a env before invoked reply,
      .asked c.node reqId a ∈ outs ∧ (∀ reqId' a', .asked c.node reqId' a' ∈ outs → a' = a) ∧
      .handled ⟨reqId, a.len, htonl reqId ++ htonl a.len ++ a.data⟩ env before invoked ∈ outs ∧
      replyTo codec (call env.callback) env.alloc srv a.data before = some reply ∧
      package.data = htonl reqId ++ htonl (UInt32.ofNat reply.bytes.length) ++ reply.bytes ∧
      a.cb = some c.cb ∧ c.cause = .frame reqId := by
  intro outs
  rcases answered_origin sound answered called with
    ⟨q, env, before, f, asked, only, handled, made, rfl, called⟩
  rcases Option.bind_eq_some_iff.mp made with ⟨reply, replied, answer⟩
  rcases mem_callsFor called with ⟨_, cb, cause, _⟩
  have id := answerFrame_reqId answer
  have payload : f.payload = reply.bytes := answerFrame_payload answer
  rw [q.package_eq] at handled
  refine ⟨q.reqId, q.args, env, before, _, reply, asked, ?_, handled, replied, ?_, cb, ?_⟩
  · intro reqId' a' other
    exact (only reqId' a' other).2
  · rw [← id, ← payload]
    rfl
  · rw [← id]
    exact cause

theorem reply_agreement_stop :
    let outs := haltMachine.trace haltStart haltRun
    ∃ reqId a env before invoked reply,
      .asked 1 reqId a ∈ outs ∧ (∀ reqId' a', .asked 1 reqId' a' ∈ outs → a' = a) ∧
      .handled ⟨reqId, a.len, htonl reqId ++ htonl a.len ++ a.data⟩ env before invoked ∈ outs ∧
      replyTo textCodec (coreCallbacks env.callback) env.alloc daemonServer a.data before =
        some reply ∧
      haltReply.data = htonl reqId ++ htonl (UInt32.ofNat reply.bytes.length) ++ reply.bytes ∧
      a.cb = some () ∧ haltCall.cause = .frame reqId :=
  reply_agreement halt_sound halt_answered List.mem_cons_self

/-- A callback that a reply leads to is told the code that the server ended that request with: 0
exactly when the callback registered for the request's type was invoked and succeeded. -/
theorem verdict_delivered (contract : ∀ c, Contract (call c) srv) {fd : Int} {uninit : UInt32}
    {w : σ} {es : List (DialogueEvent κ γ σ)}
    (meets : (machine codec call).AllSteps (fun d e => Sound codec call d e ∧ Serves codec call d e)
      (start fd uninit srv w) es) {package : Package} {calls : List (Call κ)} {c : Call κ}
    (answered : .answered package calls ∈ (machine codec call).trace (start fd uninit srv w) es)
    (called : c ∈ calls) :
    let outs := (machine codec call).trace (start fd uninit srv w) es
    ∃ reqId a env before invoked root type code,
      .asked c.node reqId a ∈ outs ∧ a.cb = some c.cb ∧
      .handled ⟨reqId, a.len, htonl reqId ++ htonl a.len ++ a.data⟩ env before invoked ∈ outs ∧
      codec.parse a.data = some root ∧ numberItem root (text "type") = some type ∧
      Verdict srv (truncate type) invoked code ∧ c.ret = code.code := by
  intro outs
  rcases ((machine codec call).allSteps_and _ _ _ es).mp meets with ⟨sound, serves⟩
  rcases answered_origin sound answered called with
    ⟨q, env, before, f, asked, _, handled, made, _, called⟩
  rcases mem_callsFor called with ⟨_, cb, _, tree, retval, parsed, found, ret⟩
  rcases Option.bind_eq_some_iff.mp made with ⟨reply, replied, answer⟩
  have every := (machine codec call).trace_forall
    (fun d => d.server = { srv with mRb := d.server.mRb })
    (fun d e held _ => by rw [step_server, held])
    (fun d e held serves => serves_answers contract held serves) rfl serves _ handled
  rcases every with ⟨all, answers⟩
  rcases Option.bind_eq_some_iff.mp replied with ⟨root, parses, later⟩
  rcases Option.bind_eq_some_iff.mp later with ⟨type, typed, _⟩
  rcases answers root type parses typed with ⟨reply', code, answered⟩
  rw [all] at replied
  obtain rfl := Option.some.inj (replied.symm.trans answered.sent)
  rcases answered.reads with ⟨tree', reads, told⟩
  rw [answerFrame_payload answer] at parsed
  obtain rfl := Option.some.inj (parsed.symm.trans reads)
  rcases answered.verdict with ⟨root', type', parses', typed', verdict⟩
  have parses : codec.parse q.args.data = some root := parses
  obtain rfl := Option.some.inj (parses.symm.trans parses')
  obtain rfl := Option.some.inj (typed.symm.trans typed')
  rw [q.package_eq] at handled
  refine ⟨q.reqId, q.args, env, before, _, root, type, code, asked, cb, handled, parses, typed,
    verdict, ?_⟩
  have number : retval = .number code.code := by
    simp only [numberItem, found] at told
    split at told
    · rename_i d same
      obtain rfl := Option.some.inj same
      rw [Option.some.inj told]
    · cases told
  rw [ret, number]
  cases code <;> rfl

/-- The callback is told 0: the request has been carried out. -/
theorem verdict_delivered_stop :
    let outs := haltMachine.trace haltStart haltRun
    ∃ reqId a env before inv, .asked 1 reqId a ∈ outs ∧
      .handled ⟨reqId, a.len, htonl reqId ++ htonl a.len ++ a.data⟩ env before (some inv) ∈ outs ∧
      daemonServer.mEventCb inv.type = some inv.cb ∧ inv.ret = .succ := by
  intro outs
  have meets : haltMachine.AllSteps
      (fun d e => Sound textCodec coreCallbacks d e ∧ Serves textCodec coreCallbacks d e)
      haltStart haltRun :=
    haltMachine.allSteps_imp (fun _ _ step => ⟨step.1, step.2.serves⟩) halt_meets
  rcases verdict_delivered (fun env => connectionServer_contract env 7 _ 0) meets halt_answered
    List.mem_cons_self with
    ⟨reqId, a, env, before, invoked, root, type, code, asked, _, handled, _, _, verdict, ret⟩
  have zero : code.code = 0 := by
    have told : (0 : Int) = code.code := ret
    omega
  rcases verdict.zero_iff.mp zero with ⟨inv, rfl, _, registered, succ⟩
  exact ⟨reqId, a, env, before, inv, asked, handled, registered, succ⟩

/-- Every request that a client still waits for is under way, or the reply to it is, and the
connection stays up. Each of these replies is going to end the wait it is for. -/
theorem no_request_lost (contract : ∀ c, Contract (call c) srv) (fd : Int) (uninit : UInt32)
    (w : σ) {es : List (DialogueEvent κ γ σ)}
    (meets : (machine codec call).AllSteps (fun d e => Sound codec call d e ∧ Prompt codec call d e)
      (start fd uninit srv w) es) :
    let d := (machine codec call).run (start fd uninit srv w) es
    d.up = true ∧ ∃ requests replies : List Frame,
      d.server.mRb.bytes ++ d.toServer = frameCode.encodeAll requests ∧
      d.world.client.mRb.bytes ++ d.toClient = frameCode.encodeAll replies ∧
      (∀ f ∈ replies, readable codec f.payload = true) ∧
      ∀ req ∈ d.world.client.mRequestList,
        req.reqId ∈ requests.map Frame.reqId ∨ req.reqId ∈ replies.map Frame.reqId := by
  let S := service (κ := κ) codec call srv
  -- what is waited for is under way in the exchange behind the bytes, and the ends stay up
  let inv (d : Dialogue κ κ' υ σ) : Prop :=
    ∃ x, Mirrors srv uninit d x ∧ S.UnderWay (TypedRequest codec) x ∧ d.up = true
  have preserves : ∀ d e, inv d → Sound codec call d e ∧ Prompt codec call d e →
      inv ((machine codec call).next d e) := by
    intro d e held meets
    rcases held with ⟨x, mirrors, underWay, up⟩
    rcases meets with ⟨sound, prompt⟩
    rcases step_matched mirrors sound (TypedRequest codec) with ⟨es', after, _, _, legal⟩
    have answers := legal (prompt_answering contract mirrors.server sound prompt)
    exact ⟨_, after, S.underWay_run underWay answers, step_up mirrors sound underWay.asks up⟩
  have initial : inv (start fd uninit srv w) :=
    ⟨_, mirrors_start fd uninit srv w, S.underWay_start _ w, rfl⟩
  have held := (machine codec call).run_invariant inv preserves initial meets
  intro d
  rcases held with ⟨x, mirrors, underWay, up⟩
  refine ⟨up, _, _, mirrors.toServer, mirrors.toClient, ?_, ?_⟩
  · intro f member
    rcases List.mem_map.mp member with ⟨m, inside, rfl⟩
    exact underWay.settles m inside
  · intro req member
    have pending : req.node ∈ Service.waiting x := by
      refine ⟨req, ?_⟩
      rw [mirrors.pending]
      exact List.mem_map.mpr ⟨req, member, rfl⟩
    have id : req.reqId = idOf uninit req.node := by
      rw [mirrors.linked.ids req member, mirrors.based]
      rfl
    rcases underWay.waits req.node pending with question | answer
    · rcases List.mem_map.mp question with ⟨m, inside, number⟩
      have same : m.2.reqId = req.reqId := by
        rw [(mirrors.questions m inside).1, number, id]
      exact .inl (List.mem_map.mpr ⟨m.2.frame, List.mem_map.mpr ⟨m, inside, rfl⟩, same⟩)
    · rcases List.mem_map.mp answer with ⟨m, inside, number⟩
      have same : m.2.reqId = req.reqId := by
        rw [(mirrors.answers m inside).1, number, id]
      exact .inr (List.mem_map.mpr ⟨m.2, List.mem_map.mpr ⟨m, inside, rfl⟩, same⟩)

/-- Before the reply is read, the client waits, and the reply is under way. -/
theorem no_request_lost_stop :
    let d := haltMachine.run haltStart (haltRun.take 2)
    d.world.client.mRequestList.map MsgRequest.reqId = [1] ∧
      d.up = true ∧ ∃ requests replies : List Frame,
      d.server.mRb.bytes ++ d.toServer = frameCode.encodeAll requests ∧
      d.world.client.mRb.bytes ++ d.toClient = frameCode.encodeAll replies ∧
      (∀ f ∈ replies, readable textCodec f.payload = true) ∧
      ∀ req ∈ d.world.client.mRequestList,
        req.reqId ∈ requests.map Frame.reqId ∨ req.reqId ∈ replies.map Frame.reqId := by
  have meets : haltMachine.AllSteps
      (fun d e => Sound textCodec coreCallbacks d e ∧ Prompt textCodec coreCallbacks d e)
      haltStart (haltRun.take 2) :=
    ⟨halt_meets.1, halt_meets.2.1, trivial⟩
  have kept := no_request_lost (fun env => connectionServer_contract env 7 _ 0) 7 0 oneTask meets
  exact ⟨by decide +kernel, kept⟩

end Dialogue

end TaskMonitor
