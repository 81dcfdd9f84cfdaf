import TaskMonitor.Agreement
import TaskMonitor.Library.Sharing

/-! Any number of clients of one daemon, each on a connection of its own.

Their requests are handled one at a time, on one state, in whatever order they arrive. -/

namespace TaskMonitor

open CText Cjson MsgServer MsgClient StepMachine

namespace Dialogue

variable {ι κ κ' υ γ σ : Type*} {codec : Codec} {call : γ → CallbackSem κ' υ σ}

def sharing (codec : Codec) (call : γ → CallbackSem κ' υ σ) :
    Sharing (machine (κ := κ) codec call) σ where
  get := Dialogue.state
  put w d := { d with state := w }
  changed := .others
  get_put _ _ := rfl
  put_get _ := rfl
  put_put _ _ _ := rfl
  step_changed _ _ := rfl

def newClients (fd : ι → Int) (uninit : ι → UInt32) (srv : ι → MsgServer κ' υ) (w : σ) :
    Together ι (Dialogue κ κ' υ σ) σ :=
  ⟨fun i => start (fd i) (uninit i) (srv i) w, w⟩

variable [DecidableEq ι]

abbrev conversations (codec : Codec) (call : γ → CallbackSem κ' υ σ) :
    StepMachine (Together ι (Dialogue κ κ' υ σ) σ) (ι × DialogueEvent κ γ σ)
      (ι × DialogueOut κ κ' υ γ σ) :=
  together (sharing codec call)

def SoundStep (codec : Codec) (call : γ → CallbackSem κ' υ σ)
    (s : Together ι (Dialogue κ κ' υ σ) σ) (e : ι × DialogueEvent κ γ σ) : Prop :=
  Sound codec call (s.member (sharing codec call) e.1) e.2

section Runs

variable {fd : ι → Int} {uninit : ι → UInt32} {srv : ι → MsgServer κ' υ} {w : σ}
  {es : List (ι × DialogueEvent κ γ σ)}

theorem conversation_run
    (sound : (conversations codec call).AllSteps (SoundStep codec call)
      (newClients fd uninit srv w) es) (i : ι) :
    ∃ xs, ((conversations codec call).trace (newClients fd uninit srv w) es).filterMap
        (Together.out? i) = (machine codec call).trace (start (fd i) (uninit i) (srv i) w) xs ∧
      (machine codec call).AllSteps (Sound codec call) (start (fd i) (uninit i) (srv i) w) xs := by
  have free : ∀ (w : σ) (d : Dialogue κ κ' υ σ), Sound codec call d (.others w) :=
    fun _ _ => trivial
  rcases together_run (sharing codec call) free i sound with ⟨xs, _, outs, legal⟩
  exact ⟨xs, outs, legal⟩

theorem conversation_server (i : ι) (es : List (ι × DialogueEvent κ γ σ)) :
    let d := ((conversations codec call).run (newClients fd uninit srv w) es).member
      (sharing codec call) i
    d.server = { srv i with mRb := d.server.mRb } := by
  let anything : Dialogue κ κ' υ σ → DialogueEvent κ γ σ → Prop := fun _ _ => True
  have free : ∀ (w : σ) (d : Dialogue κ κ' υ σ), anything d (.others w) := fun _ _ => trivial
  have all : (conversations codec call).AllSteps
      (fun s e => anything (s.member (sharing codec call) e.1) e.2)
      (newClients fd uninit srv w) es :=
    (conversations codec call).allSteps_true _ (fun _ _ => trivial) _ es
  rcases together_run (sharing codec call) free i all with ⟨xs, state, _⟩
  intro d
  have same : d = (machine codec call).run (start (fd i) (uninit i) (srv i) w) xs := state
  rw [same]
  exact (machine codec call).run_invariant_all
    (fun d => d.server = { srv i with mRb := d.server.mRb })
    (fun d e held => by rw [step_server, held]) xs rfl

theorem handled_at {i : ι} {package : Package} {env : ServeEnv γ} {before : σ}
    {invoked : Option (Invocation κ' υ)}
    (handled : (i, .handled package env before invoked) ∈
      (conversations codec call).trace (newClients fd uninit srv w) es) :
    ∃ front turn back, es = front ++ (i, .serverReads turn env) :: back ∧
      (i, .handled package env before invoked) ∈ (conversations codec call).trace
        (newClients fd uninit srv w) (front ++ [(i, .serverReads turn env)]) ∧
      taken codec call (((conversations codec call).run (newClients fd uninit srv w) front).member
        (sharing codec call) i) turn env = some package ∧
      before = ((conversations codec call).run (newClients fd uninit srv w) front).shared ∧
      ((conversations codec call).run (newClients fd uninit srv w)
        (front ++ [(i, .serverReads turn env)])).shared =
          (served codec call (srv i) env package before).world := by
  rcases mem_together_trace (sharing codec call) handled with ⟨front, e, back, rfl, emitted⟩
  rcases handled_emitted emitted with ⟨turn, rfl, state, complete, _, after⟩
  rw [conversation_server i front] at after
  refine ⟨front, turn, back, rfl, ?_, complete, state, ?_⟩
  · rw [trace_append, trace_one]
    exact List.mem_append_right _ (List.mem_map.mpr ⟨_, emitted, rfl⟩)
  · rw [run_append]
    exact after

theorem asked_sent {s : Together ι (Dialogue κ κ' υ σ) σ} {i : ι} {n : Nat} {reqId : UInt32}
    {a : SendArgs κ} (asked : (i, .asked n reqId a) ∈ (conversations codec call).trace s es) :
    ∃ front back, es = front ++ (i, .send a) :: back := by
  rcases mem_together_trace (sharing codec call) asked with ⟨front, e, back, split, emitted⟩
  obtain rfl := asked_emitted emitted
  exact ⟨front, back, split⟩

theorem asked_before {i : ι} {n : Nat} {reqId : UInt32} {a : SendArgs κ} {turn : ReadTurn}
    {env : ServeEnv γ}
    (asked : (i, .asked n reqId a) ∈ (conversations codec call).trace (newClients fd uninit srv w)
      (es ++ [(i, .serverReads turn env)])) :
    (i, .asked n reqId a) ∈ (conversations codec call).trace (newClients fd uninit srv w) es := by
  rw [trace_append, trace_one] at asked
  cases List.mem_append.mp asked with
  | inl before => exact before
  | inr now =>
      rcases List.mem_map.mp now with ⟨o, emitted, same⟩
      obtain rfl := (Prod.mk.inj same).2
      cases asked_emitted emitted

theorem handled_asked
    (sound : (conversations codec call).AllSteps (SoundStep codec call)
      (newClients fd uninit srv w) es) {i : ι} {package : Package} {env : ServeEnv γ} {before : σ}
    {invoked : Option (Invocation κ' υ)} (handled : (i, .handled package env before invoked) ∈
      (conversations codec call).trace (newClients fd uninit srv w) es) :
    ∃ n reqId a, (i, .asked n reqId a) ∈
        (conversations codec call).trace (newClients fd uninit srv w) es ∧
      package = ⟨reqId, a.len, htonl reqId ++ htonl a.len ++ a.data⟩ := by
  rcases conversation_run sound i with ⟨xs, seen, alone⟩
  rcases requests_conserved alone with ⟨requests, _, asked, _⟩
  have taken : package ∈ ((machine codec call).trace (start (fd i) (uninit i) (srv i) w)
      xs).filterMap asked? := by
    rw [asked, ← seen]
    apply List.mem_append_left
    exact List.mem_filterMap.mpr ⟨_, Together.mem_outs.mpr handled, rfl⟩
  rcases List.mem_filterMap.mp taken with ⟨o, emitted, same⟩
  rw [← seen] at emitted
  cases o with
  | asked n reqId a =>
      exact ⟨n, reqId, a, Together.mem_outs.mp emitted, (Option.some.inj same).symm⟩
  | _ => cases same

/-- Behind a call that a reply leads to: the request, and the step in which it took its effect. -/
theorem answered_served
    (sound : (conversations codec call).AllSteps (SoundStep codec call)
      (newClients fd uninit srv w) es) {i : ι} {package : Package} {calls : List (Call κ)}
    {c : Call κ} (answered : (i, .answered package calls) ∈
      (conversations codec call).trace (newClients fd uninit srv w) es) (called : c ∈ calls) :
    let S := conversations codec call
    let s := newClients fd uninit srv w
    ∃ (q : Question κ) (f : Frame) (front : List (ι × DialogueEvent κ γ σ)) (turn : ReadTurn)
        (env : ServeEnv γ) (back : List (ι × DialogueEvent κ γ σ)),
      es = front ++ (i, .serverReads turn env) :: back ∧
      (i, .asked c.node q.reqId q.args) ∈ S.trace s front ∧
      (∀ reqId a, (i, .asked c.node reqId a) ∈ S.trace s es → reqId = q.reqId ∧ a = q.args) ∧
      taken codec call ((S.run s front).member (sharing codec call) i) turn env =
        some q.frame.package ∧
      (service codec call (srv i)).serve env q (S.run s front).shared =
        (some f, (S.run s (front ++ [(i, .serverReads turn env)])).shared) ∧
      package = f.package ∧ c ∈ callsFor codec (q.node c.node) f := by
  intro S s
  rcases conversation_run sound i with ⟨xs, seen, alone⟩
  have mine {o : DialogueOut κ κ' υ γ σ} : (i, o) ∈ S.trace s es ↔
      o ∈ (machine codec call).trace (start (fd i) (uninit i) (srv i) w) xs := by
    rw [← seen]
    exact Together.mem_outs.symm
  rcases answered_origin alone (mine.mp answered) called with
    ⟨q, env, before, f, asked, only, handled, made, framed, called⟩
  rcases handled_at (mine.mpr handled) with ⟨front, turn, back, split, now, complete, rfl, after⟩
  have whole : es = (front ++ [(i, .serverReads turn env)]) ++ back := by
    rw [split, List.append_assoc]
    rfl
  have first : (i, .asked c.node q.reqId q.args) ∈ S.trace s front := by
    rw [whole, allSteps_append] at sound
    rcases handled_asked sound.1 now with ⟨n, reqId, a, asked', taken⟩
    have before := asked_before asked'
    have later : (i, .asked n reqId a) ∈ S.trace s es := by
      rw [split, trace_append]
      exact List.mem_append_left _ before
    rw [q.package_eq] at taken
    obtain ⟨rfl, _⟩ := Package.mk.inj taken
    rcases requests_conserved alone with ⟨_, _, _, once⟩
    rw [List.map_filterMap] at once
    have same := eq_of_seen once asked (mine.mp later) rfl rfl
    rw [same]
    exact before
  refine ⟨q, f, front, turn, env, back, split, first, ?_, complete, ?_, framed, called⟩
  · intro reqId a other
    exact only reqId a (mine.mp other)
  · rw [after, ← made]
    rfl

/-- The same, with the step in which the reply is read. -/
theorem answered_from
    (sound : (conversations codec call).AllSteps (SoundStep codec call)
      (newClients fd uninit srv w) es) {i : ι} {package : Package} {calls : List (Call κ)}
    {c : Call κ} (answered : (i, .answered package calls) ∈
      (conversations codec call).trace (newClients fd uninit srv w) es) (called : c ∈ calls) :
    let S := conversations codec call
    let s := newClients fd uninit srv w
    ∃ (q : Question κ) (f : Frame) (front : List (ι × DialogueEvent κ γ σ)) (turn : ReadTurn)
        (env : ServeEnv γ) (middle : List (ι × DialogueEvent κ γ σ)) (turn' : ReadTurn)
        (back : List (ι × DialogueEvent κ γ σ)),
      es = front ++ (i, .serverReads turn env) :: middle ++ (i, .clientReads turn') :: back ∧
      (i, .answered package calls) ∈
        S.emit (S.run s (front ++ (i, .serverReads turn env) :: middle)) (i, .clientReads turn') ∧
      (i, .asked c.node q.reqId q.args) ∈ S.trace s front ∧
      (∀ reqId a, (i, .asked c.node reqId a) ∈ S.trace s es → reqId = q.reqId ∧ a = q.args) ∧
      taken codec call ((S.run s front).member (sharing codec call) i) turn env =
        some q.frame.package ∧
      (service codec call (srv i)).serve env q (S.run s front).shared =
        (some f, (S.run s (front ++ [(i, .serverReads turn env)])).shared) ∧
      package = f.package ∧ c ∈ callsFor codec (q.node c.node) f := by
  intro S s
  rcases mem_together_trace (sharing codec call) answered with ⟨early, e, back, split, emitted⟩
  rcases answered_emitted emitted with ⟨turn', rfl⟩
  have now : (i, .answered package calls) ∈ S.emit (S.run s early) (i, .clientReads turn') :=
    List.mem_map.mpr ⟨_, emitted, rfl⟩
  have whole : es = (early ++ [(i, .clientReads turn')]) ++ back := by
    rw [split, List.append_assoc]
    rfl
  have until_read : (i, .answered package calls) ∈
      S.trace s (early ++ [(i, .clientReads turn')]) := by
    rw [S.trace_append, S.trace_one]
    exact List.mem_append_right _ now
  have sound' := sound
  rw [whole, S.allSteps_append] at sound'
  rcases answered_served sound'.1 until_read called with
    ⟨q, f, front, turn, env, rest, served, asked, _, complete, made, framed, own⟩
  rcases answered_served sound answered called with ⟨q', _, _, _, _, _, _, _, only, _⟩
  -- the server's reading is not the last step, which is the client's
  rcases List.eq_nil_or_concat' rest with rfl | ⟨middle, last, rfl⟩
  · have same := (List.append_inj' served rfl).2
    cases same
  · have pieces : early ++ [(i, DialogueEvent.clientReads turn')] =
        (front ++ (i, .serverReads turn env) :: middle) ++ [last] := by
      rw [served, List.append_assoc]
      rfl
    rcases List.append_inj' pieces rfl with ⟨rfl, same⟩
    obtain rfl := (List.cons.inj same).1
    have later : (i, .asked c.node q.reqId q.args) ∈ S.trace s es := by
      rw [split, List.append_assoc, S.trace_append]
      exact List.mem_append_left _ asked
    rcases only _ _ later with ⟨id, args⟩
    refine ⟨q, f, front, turn, env, middle, turn', back, split, now, asked, ?_, complete, made,
      framed, own⟩
    intro reqId a other
    rcases only reqId a other with ⟨rfl, rfl⟩
    exact ⟨id.symm, args.symm⟩

theorem conversation_once
    (sound : (conversations codec call).AllSteps (SoundStep codec call)
      (newClients fd uninit srv w) es) (i : ι) :
    (((((conversations codec call).trace (newClients fd uninit srv w) es).filterMap
      (Together.out? i)).filterMap handled?).map Package.reqId).Nodup := by
  rcases conversation_run sound i with ⟨xs, seen, alone⟩
  rw [seen]
  exact handled_once alone

end Runs

variable {fd : ι → Int} {uninit : ι → UInt32} {srv : ι → MsgServer κ' υ} {w : σ}
  {es : List (ι × DialogueEvent κ γ σ)}

/-- However many clients there are and however their steps are interleaved: no request takes its
effect twice, and behind every callback that a reply leads to there is one step of the whole run,
after the request and before the reply is read, in which it took its effect, on the state as
everything before had left it; the reply is what was made of that state. -/
theorem replies_linearised
    (sound : (conversations codec call).AllSteps (SoundStep codec call)
      (newClients fd uninit srv w) es) (i : ι) :
    let S := conversations codec call
    let s := newClients fd uninit srv w
    let state := fun es => (S.run s es).shared
    ((((S.trace s es).filterMap (Together.out? i)).filterMap handled?).map Package.reqId).Nodup ∧
      ∀ package calls c, (i, .answered package calls) ∈ S.trace s es → c ∈ calls →
        ∃ reqId a,
          (∀ reqId' a', (i, .asked c.node reqId' a') ∈ S.trace s es → reqId' = reqId ∧ a' = a) ∧
          ∃ front turn env middle turn' back reply,
            es = front ++ (i, .serverReads turn env) :: middle ++ (i, .clientReads turn') :: back ∧
            (i, .asked c.node reqId a) ∈ S.trace s front ∧
            (i, .answered package calls) ∈ S.emit
              (S.run s (front ++ (i, .serverReads turn env) :: middle)) (i, .clientReads turn') ∧
            replyTo codec (call env.callback) env.alloc (srv i) a.data (state front) =
              some reply ∧
            package.data =
              htonl reqId ++ htonl (UInt32.ofNat reply.bytes.length) ++ reply.bytes ∧
            state (front ++ [(i, .serverReads turn env)]) =
              (parseServerData codec (call env.callback) env.alloc env.outcomes (srv i) reqId
                a.data (state front)).world := by
  intro S s state
  refine ⟨conversation_once sound i, ?_⟩
  intro package calls c answered called
  rcases answered_from sound answered called with
    ⟨q, f, front, turn, env, middle, turn', back, split, read, asked, only, _, served, rfl, _⟩
  rcases Prod.mk.inj served with ⟨made, after⟩
  rcases Option.bind_eq_some_iff.mp made with ⟨reply, replied, answer⟩
  refine ⟨q.reqId, q.args, only, front, turn, env, middle, turn', back, reply, split, asked, read,
    replied, ?_, after.symm⟩
  rw [← answerFrame_reqId answer, ← answerFrame_payload answer]
  rfl

def twoRun : List (Bool × DialogueEvent Unit CbEnv CoreWorld) :=
  [(false, .send haltQuestion.args), (true, .send haltQuestion.args),
    (true, .serverReads haltTurn plainServe), (false, .serverReads haltTurn plainServe),
    (true, .clientReads ⟨99, true, true⟩), (false, .clientReads ⟨99, true, true⟩)]

abbrev twoClients : Together Bool (Dialogue Unit CoreCb Nat CoreWorld) CoreWorld :=
  newClients (fun _ => 7) (fun _ => 0) (fun _ => daemonServer) oneTask

abbrev twoConversations := conversations (ι := Bool) (κ := Unit) textCodec coreCallbacks

theorem two_sound : twoConversations.AllSteps (SoundStep textCodec coreCallbacks) twoClients
    twoRun := by
  have serving {d : Dialogue Unit CoreCb Nat CoreWorld}
      (complete : taken textCodec coreCallbacks d haltTurn plainServe =
        some haltQuestion.frame.package)
      (returned : (parseServerData textCodec (coreCallbacks plainEnv) (fun _ => true)
        plainServe.outcomes d.server 1 stopRequest d.state).ret ≠ none)
      (replied : replyTo textCodec (coreCallbacks plainEnv) (fun _ => true) d.server stopRequest
        d.state = some (textCodec.print (retTree true .succ))) :
      Sound textCodec coreCallbacks d (.serverReads haltTurn plainServe) :=
    sound_serving complete rfl (by decide) returned replied (by decide +kernel)
  exact ⟨⟨haltQuestion.sendable, by decide +kernel, by decide +kernel⟩,
    ⟨haltQuestion.sendable, by decide +kernel, by decide +kernel⟩,
    serving (by decide +kernel) (by decide +kernel) (by decide +kernel),
    serving (by decide +kernel) (by decide +kernel) (by decide +kernel), rfl, rfl, trivial⟩

theorem two_answered : (false, .answered haltReply [haltCall]) ∈
    twoConversations.trace twoClients twoRun := by
  apply Together.mem_outs.mp
  apply mem_of_answeredCalls
  decide +kernel

/-- The client that is overtaken is answered all the same. -/
theorem replies_linearised_two :
    let S := twoConversations
    let state := fun es => (S.run twoClients es).shared
    ∃ reqId a front turn env middle turn' back reply,
      twoRun = front ++ (false, .serverReads turn env) :: middle ++
        (false, .clientReads turn') :: back ∧
      (false, .asked 1 reqId a) ∈ S.trace twoClients front ∧
      replyTo textCodec (coreCallbacks env.callback) env.alloc daemonServer a.data (state front) =
        some reply ∧
      haltReply.data = htonl reqId ++ htonl (UInt32.ofNat reply.bytes.length) ++ reply.bytes ∧
      state (front ++ [(false, .serverReads turn env)]) = (parseServerData textCodec
        (coreCallbacks env.callback) env.alloc env.outcomes daemonServer reqId a.data
        (state front)).world := by
  intro S state
  rcases (replies_linearised two_sound false).2 _ _ _ two_answered List.mem_cons_self with
    ⟨reqId, a, _, front, turn, env, middle, turn', back, reply, split, asked, _, replied, framed,
      after⟩
  exact ⟨reqId, a, front, turn, env, middle, turn', back, reply, split, asked, replied, framed,
    after⟩

end Dialogue

end TaskMonitor
