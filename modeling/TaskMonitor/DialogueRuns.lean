import TaskMonitor.DialogueSteps
import TaskMonitor.CallbackPairs
import TaskMonitor.RejectedRequests

/-! Whole dialogues on bytes are runs of exchanges. What the server answers, and what a callback is
told of it. -/

namespace TaskMonitor

open CText Cjson RequestReply

namespace MsgServer

variable {κ υ σ : Type*}

theorem writeParts_ret {parts : List (List UInt8)} {outcomes : List WriteOutcome}
    (clean : .error ∉ outcomes) (returned : (writeParts parts outcomes).ret ≠ none) :
    (writeParts parts outcomes).ret = some 0 := by
  induction parts generalizing outcomes with
  | nil => rfl
  | cons part parts ih =>
      have wrote := writeSocket_wrote part outcomes
      dsimp only [writeParts] at returned ⊢
      generalize writeSocket part outcomes = first at *
      cases wrote with
      | done used rest split _ _ =>
          rw [split] at clean
          have later := ih (fun member => clean (List.mem_append_right used member)) (by
            intro waits
            simp [waits] at returned)
          simp [later]
      | failed used rest sent split _ _ _ _ => exact absurd (by rw [split]; simp) clean
      | waiting sent _ _ _ _ => simp at returned

theorem parseServerData_ret {codec : Codec} {call : CallbackSem κ υ σ} {alloc : AllocSite → Bool}
    {outcomes : List WriteOutcome} {srv : MsgServer κ υ} {reqId : UInt32} {payload : List UInt8}
    {w : σ} {root : Json} {type : ℚ} (parsed : codec.parse payload = some root)
    (typed : numberItem root (text "type") = some type) (clean : .error ∉ outcomes)
    (returned : (parseServerData codec call alloc outcomes srv reqId payload w).ret ≠ none) :
    (parseServerData codec call alloc outcomes srv reqId payload w).ret = some 0 := by
  simp only [parseServerData, parsed, typed] at returned ⊢
  split
  · rfl
  · rename_i reply replied
    simp only [replied, writeFrame_eq] at returned ⊢
    exact writeParts_ret clean returned

def encodeRsp : (t : EventType) → Option (Rsp t) → Option Json
  | .heartbeat => encodeHeartbeatRsp (fun _ => true)
  | .queryAll => encodeQueryAllRsp (fun _ => true)
  | .queryTask => encodeQueryTaskRsp (fun _ => true)
  | .taskAction => encodeTaskActionRsp (fun _ => true)
  | .max => fun _ => none

def answerTree (call : CallbackSem κ υ σ) (r : HandlerResult κ υ σ) (w : σ) : Option Json :=
  if r.errcode = .succ then
    r.invoked.bind fun inv =>
      encodeRsp inv.type (call inv.cb inv.type inv.req inv.usrData w).reply
  else some (retTree true r.errcode)

theorem processReq_answer (type usrType : EventType)
    (decode : Option Json → Option (Req type)) (codec : Codec) (call : CallbackSem κ υ σ)
    (srv : MsgServer κ υ) (data : Option Json) (w : σ) :
    let r := processReq type usrType decode (encodeRsp type) codec call (fun _ => true) srv data w
    replyFor codec (fun _ => true) r = (answerTree call r w).map codec.print := by
  intro r
  have failed (e : EventErrCode) (fails : e ≠ .succ) (w' : σ) (invoked : Option (Invocation κ υ)) :
      replyFor codec (fun _ => true) ⟨e, none, w', invoked⟩ =
        (answerTree call ⟨e, none, w', invoked⟩ w).map codec.print := by
    simp only [replyFor, answerTree, ne_eq, fails, not_false_eq_true, if_true, if_false]
    rfl
  simp only [r, processReq]
  split
  · exact failed .parse (by decide) w none
  split
  · exact failed .unprocess (by decide) w none
  rename_i cb _
  split
  · rename_i fails
    exact failed _ fails _ _
  split
  · exact failed .mem (by decide) _ _
  · rename_i succ root encoded
    simp only [if_true, replyFor, answerTree, ne_eq, not_true_eq_false, if_false, Option.bind_some,
      encoded, Option.map_some]

theorem dispatch_answer (codec : Codec) (call : CallbackSem κ υ σ) (srv : MsgServer κ υ)
    (type : Int) (data : Option Json) (w : σ) :
    let r := dispatch codec call (fun _ => true) srv type data w
    replyFor codec (fun _ => true) r = (answerTree call r w).map codec.print := by
  intro r
  simp only [r, dispatch]
  split
  · exact processReq_answer .heartbeat .heartbeat decodeHeartbeatReq codec call srv data w
  split
  · exact processReq_answer .queryAll .queryAll (fun _ => some ()) codec call srv data w
  split
  · exact processReq_answer .queryTask .queryAll decodeQuerySingleTaskReq codec call srv data w
  split
  · exact processReq_answer .taskAction .queryAll decodeTaskActionReq codec call srv data w
  · rfl

theorem encodeRsp_ret {t : EventType} {rsp : Option (Rsp t)} {tree : Json}
    (encoded : encodeRsp t rsp = some tree) : numberItem tree (text "ret") = some 0 := by
  have built {data : Json} (made : replyTree (fun _ => true) data = some tree) :
      numberItem tree (text "ret") = some 0 := by
    rcases replyTree_ret data with ⟨tree', made', ret⟩
    obtain rfl := Option.some.inj (made.symm.trans made')
    exact ret
  cases t with
  | heartbeat =>
      rcases Option.bind_eq_some_iff.mp encoded with ⟨rsp, _, made⟩
      exact built made
  | queryAll =>
      rcases Option.bind_eq_some_iff.mp encoded with ⟨rsp, _, later⟩
      rcases Option.bind_eq_some_iff.mp later with ⟨data, _, made⟩
      exact built made
  | queryTask =>
      rcases Option.bind_eq_some_iff.mp encoded with ⟨rsp, _, made⟩
      exact built made
  | taskAction =>
      obtain rfl := Option.some.inj encoded
      rfl
  | max => cases encoded

theorem answerTree_ret {call : CallbackSem κ υ σ} {r : HandlerResult κ υ σ} {w : σ} {tree : Json}
    (answer : answerTree call r w = some tree) :
    numberItem tree (text "ret") = some (r.errcode.code : ℚ) := by
  rw [answerTree] at answer
  split at answer
  · rename_i succ
    rcases Option.bind_eq_some_iff.mp answer with ⟨inv, _, encoded⟩
    rw [encodeRsp_ret encoded, succ]
    rfl
  · obtain rfl := Option.some.inj answer
    rfl

def handling (codec : Codec) (call : CallbackSem κ υ σ) (srv : MsgServer κ υ) (root : Json)
    (type : ℚ) (w : σ) : HandlerResult κ υ σ :=
  dispatch codec call (fun _ => true) srv (truncate type) (getObjectItem root (text "data")) w

section Typed

variable {codec : Codec} {payload : List UInt8} {root : Json} {type : ℚ}

theorem replyTo_typed (parsed : codec.parse payload = some root)
    (typed : numberItem root (text "type") = some type) (call : CallbackSem κ υ σ)
    (srv : MsgServer κ υ) (w : σ) :
    replyTo codec call (fun _ => true) srv payload w =
      (answerTree call (handling codec call srv root type w) w).map codec.print := by
  simp only [replyTo, parsed, typed, Option.bind_eq_bind, Option.bind_some]
  exact dispatch_answer codec call srv (truncate type) (getObjectItem root (text "data")) w

theorem parseServerData_typed (parsed : codec.parse payload = some root)
    (typed : numberItem root (text "type") = some type) (call : CallbackSem κ υ σ)
    (outcomes : List WriteOutcome) (srv : MsgServer κ υ) (reqId : UInt32) (w : σ) :
    (parseServerData codec call (fun _ => true) outcomes srv reqId payload w).world =
      (handling codec call srv root type w).world := by
  simp only [parseServerData, parsed, typed]
  split <;> rfl

end Typed

structure Answered (codec : Codec) (call : CallbackSem κ υ σ) (srv : MsgServer κ υ)
    (payload : List UInt8) (w : σ) (invoked : Option (Invocation κ υ)) (reply : CString)
    (code : EventErrCode) : Prop where
  sent : replyTo codec call (fun _ => true) srv payload w = some reply
  reads : ∃ tree, codec.parse reply.bytes = some tree ∧
    numberItem tree (text "ret") = some (code.code : ℚ)
  verdict : ∃ root type, codec.parse payload = some root ∧
    numberItem root (text "type") = some type ∧ Verdict srv (truncate type) invoked code

theorem answered_of_typed {codec : Codec} {call : CallbackSem κ υ σ} {srv : MsgServer κ υ}
    (contract : Contract call srv) {payload : List UInt8} {w : σ} {root : Json} {type : ℚ}
    (parsed : codec.parse payload = some root)
    (typed : numberItem root (text "type") = some type)
    (trips : ∀ tree, answerTree call (handling codec call srv root type w) w = some tree →
      codec.RoundTrips tree) :
    ∃ reply code, Answered codec call srv payload w (handling codec call srv root type w).invoked
      reply code := by
  have handled :=
    dispatch_handled codec contract (truncate type) (getObjectItem root (text "data")) w
  have answer := dispatch_answer codec call srv (truncate type) (getObjectItem root (text "data")) w
  have sent := replyTo_typed parsed typed call srv w
  rcases replyFor_handled handled with ⟨_, replied, _⟩
  rcases Option.map_eq_some_iff.mp (answer.symm.trans replied) with ⟨tree, made, _⟩
  refine ⟨codec.print tree, (handling codec call srv root type w).errcode, ?_, ?_, ?_⟩
  · rw [sent]
    exact congrArg (Option.map codec.print) made
  · exact ⟨tree, trips tree made, answerTree_ret made⟩
  · exact ⟨root, type, parsed, typed, verdict_handled handled⟩

end MsgServer

namespace MsgClient

variable {κ : Type*}

theorem processRsp_ret {α : Type*} {wrap : α → RspData} {decoded : Option α} {ret r : Int}
    {rsp : Option RspData} (args : (processRsp wrap decoded ret).2 = some (r, rsp)) : r = ret := by
  cases decoded with
  | none => cases args
  | some _ => exact (Prod.mk.inj (Option.some.inj args)).1.symm

theorem processRspData_ret {req : MsgRequest κ} {ret r : Int} {data : Option Json}
    {rsp : Option RspData} (args : (processRspData req ret data).2 = some (r, rsp)) : r = ret := by
  rw [processRspData, processHeartbeatRsp, processQueryAllRsp, processQueryTaskRsp] at args
  split at args
  · cases args
  split at args
  · exact (Prod.mk.inj (Option.some.inj args)).1.symm
  · split at args
    · exact processRsp_ret args
    · exact processRsp_ret args
    · exact processRsp_ret args
    · exact (Prod.mk.inj (Option.some.inj args)).1.symm
    · cases args

theorem mem_callsFor {codec : Codec} {req : MsgRequest κ} {reply : Frame} {c : Call κ}
    (member : c ∈ callsFor codec req reply) :
    req.node = c.node ∧ req.cb = some c.cb ∧ c.cause = .frame reply.reqId ∧
      ∃ root retval, codec.parse reply.payload = some root ∧
        getObjectItem root (text "ret") = some retval ∧ c.ret = retval.valueint := by
  rw [callsFor] at member
  split at member
  · cases member
  rename_i root parsed
  split at member
  · cases member
  rename_i retval found
  rcases mem_callOf member with ⟨node, cb, cause, args⟩
  exact ⟨node, cb, cause, root, retval, parsed, found, processRspData_ret args⟩

end MsgClient

namespace Dialogue

open MsgServer MsgClient

variable {κ κ' υ γ σ : Type*} {codec : Codec} {call : γ → CallbackSem κ' υ σ}
  {srv : MsgServer κ' υ} {base : UInt32}

def Answering (codec : Codec) (call : γ → CallbackSem κ' υ σ) (good : Question κ → Prop)
    (d : Dialogue κ κ' υ σ) : DialogueEvent κ γ σ → Prop
  | .send a => ∀ sendable, good ⟨d.world.client.mCurReqId + 1, a, sendable⟩
  | .serverReads turn env => ∀ q : Question κ, (MsgServer.recvData codec (call env.callback)
        ⟨turn.call d.toServer, env.alloc, env.outcomes⟩ d.server d.state).package =
          some q.frame.package → good q →
      ∃ reply, ((service codec call d.server).serve env q d.state).1 = some reply ∧
        readable codec reply.payload = true
  | _ => True

theorem step_matched {d : Dialogue κ κ' υ σ} {x : Exchange (Question κ) Frame (MsgRequest κ) σ}
    (mirrors : Mirrors srv base d x) {e : DialogueEvent κ γ σ} (sound : Sound codec call d e)
    (good : Question κ → Prop) :
    Matched codec call srv base good x (step codec call d e) (Answering codec call good d e) := by
  cases e with
  | send a =>
      rcases sound with ⟨sendable, returned, few⟩
      rcases send_matched mirrors sendable returned few good with ⟨es, after, outs, grants, legal⟩
      exact ⟨es, after, outs, grants, fun answering => legal (answering sendable)⟩
  | expire timer =>
      rcases expire_matched mirrors timer good with ⟨es, after, outs, grants, legal⟩
      exact ⟨es, after, outs, grants, fun _ => legal trivial⟩
  | serverReads turn env =>
      rcases serverReads_matched mirrors sound good with ⟨es, after, outs, grants, legal⟩
      refine ⟨es, after, outs, grants, fun answering => legal ?_⟩
      intro q taken fine
      rcases answering q taken fine with ⟨reply, made, reads⟩
      rw [mirrors.server] at made
      exact ⟨reply, made, reads⟩
  | clientReads turn =>
      rcases clientReads_matched mirrors sound good with ⟨es, after, outs, grants, legal⟩
      exact ⟨es, after, outs, grants, fun _ => legal trivial⟩
  | others w =>
      rcases others_matched mirrors w good with ⟨es, after, outs, grants, legal⟩
      exact ⟨es, after, outs, grants, fun _ => legal trivial⟩

theorem simulates (srv : MsgServer κ' υ) (base : UInt32) :
    StepMachine.Simulation (machine (κ := κ) codec call) (service codec call srv).machine
      (Mirrors srv base) (Sound codec call) (Service.Grants (Granted base))
      (image codec call srv) where
  step d e x mirrors sound := by
    rcases step_matched mirrors sound fun _ => True with ⟨es, after, outs, grants, _⟩
    exact ⟨es, after, outs, grants⟩

def asked? : DialogueOut κ κ' υ γ σ → Option Package
  | .asked _ reqId a => some ⟨reqId, a.len, htonl reqId ++ htonl a.len ++ a.data⟩
  | _ => none

def handled? : DialogueOut κ κ' υ γ σ → Option Package
  | .handled package _ _ _ => some package
  | _ => none

def replied? (codec : Codec) (call : γ → CallbackSem κ' υ σ) (srv : MsgServer κ' υ) :
    DialogueOut κ κ' υ γ σ → Option Package
  | .handled package env before _ =>
      ((replyTo codec (call env.callback) env.alloc srv (package.data.drop dataHeadLen.toNat)
        before).bind (answerFrame package.reqId)).map Frame.package
  | _ => none

def answered? : DialogueOut κ κ' υ γ σ → Option Package
  | .answered package _ => some package
  | _ => none

section Images

variable (outs : List (Out (Question κ) Frame (MsgRequest κ) σ (ServeEnv γ)))

theorem asked_images : (outs.flatMap (image codec call srv)).filterMap asked? =
    (outs.filterMap Service.asked?).map (·.2.frame.package) := by
  apply StepMachine.filterMap_images
  intro o
  cases o with
  | asked n q ticket =>
      change [(⟨q.reqId, q.args.len, htonl q.reqId ++ htonl q.args.len ++ q.args.data⟩ : Package)] =
        [q.frame.package]
      rw [q.package_eq]
  | served => rfl
  | received => rfl
  | expired n req =>
      simp [image, Service.asked?, List.filterMap_map, Function.comp_def, asked?]

theorem handled_images : (outs.flatMap (image codec call srv)).filterMap handled? =
    (outs.filterMap Service.served?).map (·.2.frame.package) := by
  apply StepMachine.filterMap_images
  intro o
  cases o with
  | expired n req =>
      simp [image, Service.served?, List.filterMap_map, Function.comp_def, handled?]
  | _ => rfl

theorem replied_images : (outs.flatMap (image codec call srv)).filterMap (replied? codec call srv) =
    (outs.filterMap (service codec call srv).replied?).map (·.2.package) := by
  apply StepMachine.filterMap_images
  intro o
  cases o with
  | expired n req =>
      simp [image, Service.replied?, List.filterMap_map, Function.comp_def, replied?]
  | served n q env before =>
      let answer := ((service codec call srv).serve env q before).1
      change [DialogueOut.handled q.frame.package env before _].filterMap _ =
        ((answer.map fun b => (n, b)).map (·.2.package)).toList
      have same : ∀ invoked, replied? codec call srv
          (.handled q.frame.package env before invoked : DialogueOut κ κ' υ γ σ) =
            answer.map Frame.package := fun _ => rfl
      rw [List.filterMap_cons, same, Option.map_map]
      cases answer <;> rfl
  | _ => rfl

theorem answered_images : (outs.flatMap (image codec call srv)).filterMap answered? =
    (outs.filterMap Service.received?).map (·.2.package) := by
  apply StepMachine.filterMap_images
  intro o
  cases o with
  | expired n req =>
      simp [image, Service.received?, List.filterMap_map, Function.comp_def, answered?]
  | _ => rfl

end Images

section Replies

variable {fd : Int} {uninit : UInt32} {w : σ} {es : List (DialogueEvent κ γ σ)}

theorem requests_conserved
    (sound : (machine codec call).AllSteps (Sound codec call) (start fd uninit srv w) es) :
    let d := (machine codec call).run (start fd uninit srv w) es
    let outs := (machine codec call).trace (start fd uninit srv w) es
    ∃ requests : List Frame, d.server.mRb.bytes ++ d.toServer = frameCode.encodeAll requests ∧
      outs.filterMap asked? = outs.filterMap handled? ++ requests.map Frame.package ∧
      ((outs.filterMap asked?).map Package.reqId).Nodup := by
  intro d outs
  rcases (simulates srv uninit).run (mirrors_start fd uninit srv w) sound with
    ⟨es', mirrors, outs_eq, grants⟩
  let S := service (κ := κ) codec call srv
  let log := S.machine.trace (Exchange.start w) es'
  let x := S.machine.run (Exchange.start w) es'
  have asked : outs.filterMap asked? = (log.filterMap Service.asked?).map (·.2.frame.package) := by
    rw [← asked_images, ← outs_eq]
  have questions : log.filterMap Service.asked? = log.filterMap Service.served? ++ x.questions :=
    S.questions_channel.run (Exchange.start w) es'
  refine ⟨_, mirrors.toServer, ?_, ?_⟩
  · calc
      outs.filterMap asked? = (log.filterMap Service.served?).map (·.2.frame.package) ++
          x.questions.map (·.2.frame.package) := by rw [asked, questions, List.map_append]
      _ = outs.filterMap handled? ++ (x.questions.map (·.2.frame)).map Frame.package := by
        rw [← handled_images, ← outs_eq, List.map_map]
        rfl
  · have ids : (outs.filterMap asked?).map Package.reqId =
        ((log.filterMap Service.asked?).map Prod.fst).map (idOf uninit) := by
      rw [asked, List.map_map, List.map_map]
      apply List.map_congr_left
      intro m member
      rcases List.mem_filterMap.mp member with ⟨o, emitted, same⟩
      cases o with
      | asked n q ticket =>
          obtain rfl := Option.some.inj same
          exact (S.asked_fits grants emitted).1
      | _ => cases same
    have few : x.issued < 2 ^ 32 := mirrors.issued ▸ mirrors.few
    rw [ids, (S.asked_numbers (Exchange.start w) es').2]
    apply List.Nodup.map_on _ List.nodup_range'
    intro m first n second same
    have bound {k : Nat} (inside : k ∈ List.range' 1 x.issued) : k ≤ x.issued := by
      rcases List.mem_range'_1.mp inside with ⟨_, below⟩
      omega
    exact (idOf_inj few uninit (bound first) (bound second)).mp same

theorem replies_conserved
    (sound : (machine codec call).AllSteps (Sound codec call) (start fd uninit srv w) es) :
    let d := (machine codec call).run (start fd uninit srv w) es
    let outs := (machine codec call).trace (start fd uninit srv w) es
    ∃ replies : List Frame, d.world.client.mRb.bytes ++ d.toClient = frameCode.encodeAll replies ∧
      outs.filterMap (replied? codec call srv) =
        outs.filterMap answered? ++ replies.map Frame.package := by
  intro d outs
  rcases (simulates srv uninit).run (mirrors_start fd uninit srv w) sound with
    ⟨es', mirrors, outs_eq, _⟩
  let S := service (κ := κ) codec call srv
  let log := S.machine.trace (Exchange.start w) es'
  let x := S.machine.run (Exchange.start w) es'
  have answers : log.filterMap S.replied? = log.filterMap Service.received? ++ x.answers :=
    S.answers_channel.run (Exchange.start w) es'
  refine ⟨_, mirrors.toClient, ?_⟩
  calc
    outs.filterMap (replied? codec call srv) = (log.filterMap S.replied?).map (·.2.package) := by
      rw [← replied_images, ← outs_eq]
    _ = (log.filterMap Service.received?).map (·.2.package) ++ x.answers.map (·.2.package) := by
      rw [answers, List.map_append]
    _ = outs.filterMap answered? ++ (x.answers.map Prod.snd).map Frame.package := by
      rw [← answered_images, ← outs_eq, List.map_map]
      rfl

theorem handled_once
    (sound : (machine codec call).AllSteps (Sound codec call) (start fd uninit srv w) es) :
    ((((machine codec call).trace (start fd uninit srv w) es).filterMap handled?).map
      Package.reqId).Nodup := by
  rcases requests_conserved sound with ⟨requests, _, asked, once⟩
  rw [asked, List.map_append] at once
  exact once.of_append_left

/-- Where the calls of a reply come from. -/
theorem answered_origin
    (sound : (machine codec call).AllSteps (Sound codec call) (start fd uninit srv w) es)
    {package : Package} {calls : List (Call κ)} {c : Call κ}
    (answered : .answered package calls ∈ (machine codec call).trace (start fd uninit srv w) es)
    (called : c ∈ calls) :
    ∃ (q : Question κ) (env : ServeEnv γ) (before : σ) (f : Frame),
      .asked c.node q.reqId q.args ∈ (machine codec call).trace (start fd uninit srv w) es ∧
      (∀ reqId a, .asked c.node reqId a ∈
        (machine codec call).trace (start fd uninit srv w) es → reqId = q.reqId ∧ a = q.args) ∧
      .handled q.frame.package env before (parseServerData codec (call env.callback) env.alloc
        env.outcomes srv q.reqId q.args.data before).invoked ∈
          (machine codec call).trace (start fd uninit srv w) es ∧
      ((service codec call srv).serve env q before).1 = some f ∧ package = f.package ∧
      c ∈ callsFor codec (q.node c.node) f := by
  rcases (simulates srv uninit).run (mirrors_start fd uninit srv w) sound with
    ⟨es', mirrors, outs_eq, grants⟩
  rw [outs_eq] at answered ⊢
  let S := service (κ := κ) codec call srv
  rcases List.mem_flatMap.mp answered with ⟨o, received, inside⟩
  -- of what an exchange brings out only a reply that is received shows as an answer
  cases o with
  | asked n q ticket => simp [image] at inside
  | served n q env before => simp [image] at inside
  | expired n req => simp [image] at inside
  | received n f ticket =>
      simp only [image, List.mem_singleton, DialogueOut.answered.injEq] at inside
      rcases inside with ⟨rfl, rfl⟩
      cases ticket with
      | none => cases called
      | some req =>
          have called : c ∈ callsFor codec req f := called
          rcases S.answer_origin received with ⟨q, env, before, asked, served, made⟩
          obtain rfl := (S.asked_fits grants asked).2 req rfl
          obtain rfl : n = c.node := (mem_callsFor called).1
          refine ⟨q, env, before, f, ?_, ?_, ?_, made, rfl, called⟩
          · exact List.mem_flatMap.mpr ⟨_, asked, by simp [image]⟩
          · intro reqId a other
            rcases List.mem_flatMap.mp other with ⟨o, asked', inside⟩
            cases o with
            | asked m q' ticket =>
                simp only [image, List.mem_singleton, DialogueOut.asked.injEq] at inside
                rcases inside with ⟨rfl, rfl, rfl⟩
                have once := List.inj_on_of_nodup_map (S.asked_once w es')
                  (List.mem_filterMap.mpr ⟨_, asked, rfl⟩)
                  (List.mem_filterMap.mpr ⟨_, asked', rfl⟩) rfl
                obtain rfl := (Prod.mk.inj once).2
                exact ⟨rfl, rfl⟩
            | served => simp [image] at inside
            | received => simp [image] at inside
            | expired => simp [image] at inside
          · exact List.mem_flatMap.mpr ⟨_, served, by simp [image]⟩

end Replies

def served (codec : Codec) (call : γ → CallbackSem κ' υ σ) (srv : MsgServer κ' υ)
    (env : ServeEnv γ) (package : Package) (w : σ) : ServerResult κ' υ σ :=
  parseServerData codec (call env.callback) env.alloc env.outcomes srv package.reqId
    (package.data.drop dataHeadLen.toNat) w

def taken (codec : Codec) (call : γ → CallbackSem κ' υ σ) (d : Dialogue κ κ' υ σ) (turn : ReadTurn)
    (env : ServeEnv γ) : Option Package :=
  (MsgServer.recvData codec (call env.callback)
    ⟨turn.call d.toServer, env.alloc, env.outcomes⟩ d.server d.state).package

theorem asked_emitted {d : Dialogue κ κ' υ σ} {e : DialogueEvent κ γ σ} {n : Nat} {reqId : UInt32}
    {a : SendArgs κ} (emitted : .asked n reqId a ∈ (machine codec call).emit d e) :
    e = .send a := by
  change _ ∈ (step codec call d e).2 at emitted
  cases e with
  | send a' =>
      rcases List.mem_singleton.mp emitted with ⟨_, _, rfl⟩
      rfl
  | expire timer =>
      simp only [step, expire] at emitted
      split at emitted
      · cases emitted
      · simp at emitted
  | serverReads turn env =>
      simp only [step, serverReads] at emitted
      split at emitted
      · cases emitted
      · simp at emitted
  | clientReads turn =>
      simp only [step, clientReads] at emitted
      split at emitted
      · cases emitted
      · simp at emitted
  | others w => cases emitted

theorem answered_emitted {d : Dialogue κ κ' υ σ} {e : DialogueEvent κ γ σ} {package : Package}
    {calls : List (Call κ)} (emitted : .answered package calls ∈ (machine codec call).emit d e) :
    ∃ turn, e = .clientReads turn := by
  change _ ∈ (step codec call d e).2 at emitted
  cases e with
  | send a => simp [step, send] at emitted
  | expire timer =>
      simp only [step, expire] at emitted
      split at emitted
      · cases emitted
      · simp at emitted
  | serverReads turn env =>
      simp only [step, serverReads] at emitted
      split at emitted
      · cases emitted
      · simp at emitted
  | clientReads turn => exact ⟨turn, rfl⟩
  | others w => cases emitted

theorem handled_emitted {d : Dialogue κ κ' υ σ} {e : DialogueEvent κ γ σ} {package : Package}
    {env : ServeEnv γ} {before : σ} {invoked : Option (Invocation κ' υ)}
    (emitted : .handled package env before invoked ∈ (machine codec call).emit d e) :
    ∃ turn, e = .serverReads turn env ∧ before = d.state ∧
      taken codec call d turn env = some package ∧
      invoked = (served codec call d.server env package before).invoked ∧
      ((machine codec call).next d e).state =
        (served codec call d.server env package before).world := by
  change _ ∈ (step codec call d e).2 at emitted
  change ∃ turn, _ ∧ _ ∧ _ ∧ _ ∧ (step codec call d e).1.state = _
  cases e with
  | send a => simp [step, send] at emitted
  | expire timer =>
      simp only [step, expire] at emitted
      split at emitted
      · cases emitted
      · simp at emitted
  | clientReads turn =>
      simp only [step, clientReads] at emitted
      split at emitted
      · cases emitted
      · simp at emitted
  | others w => cases emitted
  | serverReads turn env' =>
      simp only [step, serverReads] at emitted ⊢
      split at emitted
      · cases emitted
      · rename_i reads
        rcases List.mem_map.mp emitted with ⟨package', member, same⟩
        simp only [DialogueOut.handled.injEq] at same
        rcases same with ⟨rfl, rfl, rfl, rfl⟩
        have complete := Option.mem_toList.mp member
        have parsed : (MsgServer.recvData codec (call env'.callback)
            ⟨turn.call d.toServer, env'.alloc, env'.outcomes⟩ d.server d.state).parsed =
              some (served codec call d.server env' package' d.state) :=
          recvData_taken complete
        refine ⟨turn, rfl, rfl, complete, ?_, ?_⟩
        · rw [parsed]
          rfl
        · rw [if_neg reads, parsed]
          rfl

theorem state_kept {d : Dialogue κ κ' υ σ} {e : DialogueEvent κ γ σ} (alone : ∀ w, e ≠ .others w)
    (quiet : ∀ package env before invoked,
      .handled package env before invoked ∉ (machine codec call).emit d e) :
    ((machine codec call).next d e).state = d.state := by
  change (step codec call d e).1.state = d.state
  cases e with
  | send a => rfl
  | expire timer =>
      simp only [step, expire]
      split <;> rfl
  | clientReads turn =>
      simp only [step, clientReads]
      split <;> rfl
  | others w => exact absurd rfl (alone w)
  | serverReads turn env =>
      change ∀ package env' before invoked,
        _ ∉ (step codec call d (.serverReads turn env)).2 at quiet
      simp only [step, serverReads] at quiet ⊢
      split
      · rfl
      · rename_i reads
        rw [if_neg reads] at quiet
        cases complete : (MsgServer.recvData codec (call env.callback)
            ⟨turn.call d.toServer, env.alloc, env.outcomes⟩ d.server d.state).package with
        | none =>
            have nothing := recvData_hands (MsgServer.parsePackage codec (call env.callback)
              ⟨turn.call d.toServer, env.alloc, env.outcomes⟩ d.server d.state) d.server.mRb
              (turn.call d.toServer)
            simp only [MsgServer.recvData] at complete ⊢
            rw [nothing, complete]
            rfl
        | some package =>
            rw [complete] at quiet
            exact absurd (List.mem_singleton.mpr rfl) (quiet package env d.state _)

/-- A step in which the server's allocations succeed, and the library reads back the replies that it
has printed. -/
def Serves (codec : Codec) (call : γ → CallbackSem κ' υ σ) (d : Dialogue κ κ' υ σ) :
    DialogueEvent κ γ σ → Prop
  | .serverReads turn env => (∀ site, env.alloc site = true) ∧
      ∀ package, (MsgServer.recvData codec (call env.callback)
          ⟨turn.call d.toServer, env.alloc, env.outcomes⟩ d.server d.state).package =
            some package →
        ∀ root type tree, codec.parse (package.data.drop dataHeadLen.toNat) = some root →
          numberItem root (text "type") = some type →
          answerTree (call env.callback)
            (handling codec (call env.callback) d.server root type d.state) d.state = some tree →
          codec.RoundTrips tree
  | _ => True

/-- Such a step, in which what is sent is a request with a type. -/
def Prompt (codec : Codec) (call : γ → CallbackSem κ' υ σ) (d : Dialogue κ κ' υ σ) :
    DialogueEvent κ γ σ → Prop
  | .send a => ∃ root type, codec.parse a.data = some root ∧
      numberItem root (text "type") = some type
  | .serverReads turn env => Serves codec call d (.serverReads turn env)
  | _ => True

theorem Prompt.serves {d : Dialogue κ κ' υ σ} {e : DialogueEvent κ γ σ}
    (prompt : Prompt codec call d e) : Serves codec call d e := by
  cases e with
  | serverReads turn env => exact prompt
  | _ => trivial

section Serving

variable {d : Dialogue κ κ' υ σ} {turn : ReadTurn} {env : ServeEnv γ} {q : Question κ}
  (complete : taken codec call d turn env = some q.frame.package)

include complete

/-- What a step in which a request is completed must meet, said of that request. -/
theorem sound_serving (accepted : turn.accepted = true) (clean : .error ∉ env.outcomes)
    (returned : (parseServerData codec (call env.callback) env.alloc env.outcomes d.server q.reqId
      q.args.data d.state).ret ≠ none) {reply : CString}
    (replied : replyTo codec (call env.callback) env.alloc d.server q.args.data d.state =
      some reply) (short : reply.strlen < 2 ^ 31) : Sound codec call d (.serverReads turn env) := by
  refine ⟨accepted, clean, ?_⟩
  intro package complete'
  obtain rfl := Option.some.inj (complete.symm.trans complete')
  refine ⟨returned, ?_⟩
  intro reply' replied'
  obtain rfl := Option.some.inj (replied.symm.trans replied')
  exact short

theorem serves_serving (allocated : ∀ site, env.alloc site = true) {root tree : Json} {type : ℚ}
    (parsed : codec.parse q.args.data = some root)
    (typed : numberItem root (text "type") = some type)
    (made : answerTree (call env.callback)
      (handling codec (call env.callback) d.server root type d.state) d.state = some tree)
    (trips : codec.RoundTrips tree) : Serves codec call d (.serverReads turn env) := by
  refine ⟨allocated, ?_⟩
  intro package complete' root' type' tree' parsed' typed' made'
  obtain rfl := Option.some.inj (complete.symm.trans complete')
  obtain rfl := Option.some.inj (parsed.symm.trans parsed')
  obtain rfl := Option.some.inj (typed.symm.trans typed')
  obtain rfl := Option.some.inj (made.symm.trans made')
  exact trips

end Serving

def AnsweredOut (codec : Codec) (call : γ → CallbackSem κ' υ σ) (srv : MsgServer κ' υ) :
    DialogueOut κ κ' υ γ σ → Prop
  | .handled package env before invoked => env.alloc = (fun _ => true) ∧
      ∀ root type, codec.parse (package.data.drop dataHeadLen.toNat) = some root →
        numberItem root (text "type") = some type →
        ∃ reply code, Answered codec (call env.callback) srv (package.data.drop dataHeadLen.toNat)
          before invoked reply code
  | _ => True

theorem serves_answers (contract : ∀ c, Contract (call c) srv) {d : Dialogue κ κ' υ σ}
    (server : d.server = { srv with mRb := d.server.mRb }) {e : DialogueEvent κ γ σ}
    (serves : Serves codec call d e) :
    ∀ o ∈ (machine codec call).emit d e, AnsweredOut codec call srv o := by
  intro o member
  cases o with
  | asked n reqId a => trivial
  | answered package calls => trivial
  | timedOut c => trivial
  | handled package env before invoked =>
      rcases handled_emitted member with ⟨turn, rfl, rfl, taken, told, _⟩
      rcases serves with ⟨allocated, trips⟩
      have all : env.alloc = fun _ => true := funext allocated
      refine ⟨all, ?_⟩
      intro root type parsed typed
      have readable := trips package taken root type
      rw [server] at readable
      rcases answered_of_typed (contract env.callback) parsed typed
        (fun tree made => readable tree parsed typed made) with ⟨reply, code, answered⟩
      have same : invoked = (handling codec (call env.callback) srv root type d.state).invoked := by
        rw [told, served, parseServerData_invoked parsed typed, all, server]
        rfl
      rw [same]
      exact ⟨reply, code, answered⟩

theorem step_server (d : Dialogue κ κ' υ σ) (e : DialogueEvent κ γ σ) :
    ((machine codec call).next d e).server =
      { d.server with mRb := ((machine codec call).next d e).server.mRb } := by
  change (step codec call d e).1.server =
    { d.server with mRb := (step codec call d e).1.server.mRb }
  cases e with
  | send a => rfl
  | expire timer =>
      simp only [step, expire]
      split <;> rfl
  | serverReads turn env =>
      simp only [step, serverReads]
      split <;> rfl
  | clientReads turn =>
      simp only [step, clientReads]
      split <;> rfl
  | others w => rfl

def TypedRequest (codec : Codec) (q : Question κ) : Prop :=
  ∃ root type, codec.parse q.args.data = some root ∧ numberItem root (text "type") = some type

theorem prompt_answering (contract : ∀ c, Contract (call c) srv) {d : Dialogue κ κ' υ σ}
    (server : d.server = { srv with mRb := d.server.mRb }) {e : DialogueEvent κ γ σ}
    (sound : Sound codec call d e) (prompt : Prompt codec call d e) :
    Answering codec call (TypedRequest codec) d e := by
  cases e with
  | send a => exact fun _ => prompt
  | serverReads turn env =>
      intro q taken fine
      rcases fine with ⟨root, type, parsed, typed⟩
      rcases prompt with ⟨allocated, trips⟩
      -- with memory for everything it is the reply that arrives, and no failure message
      have all : env.alloc = fun _ => true := funext allocated
      have holds : Contract (call env.callback) d.server := by
        rw [server]
        exact contract env.callback
      rcases answered_of_typed holds parsed typed
        (fun tree made => trips _ taken root type tree parsed typed made) with
        ⟨reply, code, answered⟩
      have sent : replyTo codec (call env.callback) env.alloc d.server q.args.data d.state =
          some reply := by
        rw [all]
        exact answered.sent
      have short := (sound.2.2 _ taken).2 reply sent
      have answer : answerFrame q.reqId reply = some (replyFrame q.reqId reply short) :=
        dif_pos short
      rcases answered.reads with ⟨tree, reads, told⟩
      refine ⟨replyFrame q.reqId reply short, ?_, ?_⟩
      · change (replyTo codec (call env.callback) env.alloc d.server q.args.data d.state).bind
          (answerFrame q.reqId) = _
        rw [sent, Option.bind_some, answer]
      · have found : (getObjectItem tree (text "ret")).isSome := by
          rw [numberItem] at told
          split at told
          · rename_i d same
            rw [same]
            rfl
          · cases told
        rw [readable, answerFrame_payload answer, reads]
        exact found
  | expire timer => trivial
  | clientReads turn => trivial
  | others w => trivial

theorem answered_tree {d : Dialogue κ κ' υ σ} {turn : ReadTurn} {env : ServeEnv γ}
    (serves : Serves codec call d (.serverReads turn env))
    (server : d.server = { srv with mRb := d.server.mRb }) {q : Question κ}
    (complete : taken codec call d turn env = some q.frame.package) {root : Json} {type : ℚ}
    (parsed : codec.parse q.args.data = some root)
    (typed : numberItem root (text "type") = some type) {f : Frame}
    (made : ((service codec call srv).serve env q d.state).1 = some f) :
    ∃ tree, answerTree (call env.callback)
        (handling codec (call env.callback) srv root type d.state) d.state = some tree ∧
      codec.parse f.payload = some tree := by
  rcases serves with ⟨allocated, readable⟩
  have all : env.alloc = fun _ => true := funext allocated
  rcases Option.bind_eq_some_iff.mp made with ⟨reply, replied, framed⟩
  rw [all, replyTo_typed parsed typed (call env.callback) srv d.state] at replied
  rcases Option.map_eq_some_iff.mp replied with ⟨tree, answer, printed⟩
  have trips : codec.RoundTrips tree := by
    apply readable _ complete root type tree parsed typed
    rw [server]
    exact answer
  refine ⟨tree, answer, ?_⟩
  rw [answerFrame_payload framed, ← printed]
  exact trips

theorem serverReads_up {d : Dialogue κ κ' υ σ} {x : Exchange (Question κ) Frame (MsgRequest κ) σ}
    (mirrors : Mirrors srv base d x) {turn : ReadTurn} {env : ServeEnv γ}
    (sound : Sound codec call d (.serverReads turn env))
    (typed : ∀ m ∈ x.questions, TypedRequest codec m.2) (up : d.up = true) :
    (d.serverReads codec call turn env).1.up = true := by
  rcases sound with ⟨accepted, clean, returns⟩
  rw [serverReads]
  split
  · exact up
  rename_i reads
  rw [not_or] at reads
  have reading := recvData_reads
    (parsePackage codec (call env.callback) ⟨turn.call d.toServer, env.alloc, env.outcomes⟩
      d.server d.state) mirrors.toServer accepted reads.2
  simp only [MsgServer.recvData] at returns ⊢
  generalize TaskMonitor.recvData _ d.server.mRb _ = r at reading returns ⊢
  cases reading with
  | more rb stream => rfl
  | taken f later rb first stream =>
      rcases List.map_eq_cons_iff.mp first with ⟨m, questions, queue, rfl, rfl⟩
      rcases typed m (by rw [queue]; exact List.mem_cons_self) with ⟨root, type, parsed, has⟩
      have zero : (parseServerData codec (call env.callback) env.alloc env.outcomes d.server
          m.2.reqId m.2.args.data d.state).ret = some 0 :=
        parseServerData_ret parsed has clean (returns _ rfl).1
      have ret : (parsePackage codec (call env.callback)
          ⟨turn.call d.toServer, env.alloc, env.outcomes⟩ d.server d.state
            m.2.frame.package).1 = 0 :=
        congrArg (Option.getD · 0) zero
      simp [ret]

theorem step_up {d : Dialogue κ κ' υ σ} {x : Exchange (Question κ) Frame (MsgRequest κ) σ}
    (mirrors : Mirrors srv base d x) {e : DialogueEvent κ γ σ} (sound : Sound codec call d e)
    (typed : ∀ m ∈ x.questions, TypedRequest codec m.2) (up : d.up = true) :
    (step codec call d e).1.up = true := by
  cases e with
  | send a => exact up
  | expire timer =>
      simp only [step, expire]
      split <;> exact up
  | serverReads turn env => exact serverReads_up mirrors sound typed up
  | clientReads turn =>
      simp only [step, clientReads]
      split <;> exact up
  | others w => exact up

end Dialogue

end TaskMonitor
