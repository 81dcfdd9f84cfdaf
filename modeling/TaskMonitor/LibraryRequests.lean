import TaskMonitor.ClientLifecycle
import TaskMonitor.RequestNodes
import TaskMonitor.RequestCallbacks
import TaskMonitor.Library.Succession

/-! The requests of the client library over its runs, from one connection to the next. -/

namespace TaskMonitor

open CText Cjson StepMachine

namespace MsgClient

variable {κ : Type*}

def drained (w : ClientWorld κ) : ClientWorld κ :=
  { w with client := { w.client with mRb := .create } }

theorem sendRequest_drained (w : ClientWorld κ) (a : SendArgs κ) :
    sendRequest (drained w) a =
      { sendRequest w a with world := drained (sendRequest w a).world } := by
  simp only [sendRequest, getNextReqId, drained]
  split
  · rfl
  split
  · rfl
  split
  · rfl
  · simp only [reqNodeCreate]
    cases a.mallocOk <;> cases a.timerOk <;> rfl

theorem sendAll_drained (w : ClientWorld κ) (sends : List (SendArgs κ)) :
    sendAll (drained w) sends = (drained (sendAll w sends).1, (sendAll w sends).2) := by
  induction sends generalizing w with
  | nil => rfl
  | cons a sends ih => simp only [sendAll, sendRequest_drained, ih]

theorem invoke_drained (w : ClientWorld κ) (req : MsgRequest κ) (args : Option CbArgs)
    (cause : Cause) (during : List (SendArgs κ)) :
    invoke (drained w) req args cause during =
      (drained (invoke w req args cause during).1, (invoke w req args cause during).2) := by
  rw [invoke.eq_def, invoke.eq_def]
  split
  · rw [sendAll_drained]
  · rfl

theorem retire_drained (w : ClientWorld κ) (req : MsgRequest κ) :
    retire (drained w) req = (drained (retire w req).1, (retire w req).2) := by
  rw [retire, retire, destroyReqNode, destroyReqNode]
  cases req.timer <;> rfl

theorem destroyAll_drained (w : ClientWorld κ) (reqs : List (MsgRequest κ)) :
    destroyAll (drained w) reqs = (drained (destroyAll w reqs).1, (destroyAll w reqs).2) := by
  induction reqs generalizing w with
  | nil => rfl
  | cons req reqs ih => simp only [destroyAll, retire_drained, ih]

theorem step_drained (codec : Codec) (w : ClientWorld κ) (e : Event κ) :
    step codec (drained w) e = (drained (step codec w e).1, (step codec w e).2) := by
  have alive : (drained w).alive = w.alive := rfl
  rw [step.eq_def, step.eq_def codec w, alive]
  split
  · rfl
  cases e with
  | send a => simp only [sendRequest_drained]
  | frame reqId data during =>
      have requests : (drained w).client.mRequestList = w.client.mRequestList := rfl
      simp only [parseClientData, requests]
      split
      · rfl
      split
      · rfl
      split
      · rfl
      · simp only [invoke_drained, retire_drained]
  | expire timer during =>
      have timers : (drained w).timers = w.timers := rfl
      have requests : (drained w).client.mRequestList = w.client.mRequestList := rfl
      simp only [timers, msgClientReqTimerCb, requests]
      split
      · rfl
      split
      · rfl
      · simp only [invoke_drained, retire_drained]
  | destroy =>
      have requests : (drained w).client.mRequestList = w.client.mRequestList := rfl
      simp only [destroy, requests, destroyAll_drained]
      rfl

def Accounts (w w' : ClientWorld κ) (outs : List (ClientOut κ)) : Prop :=
  ∀ node, node ∈ w.nodes ∨ .accepted node ∈ outs → node ∈ w'.nodes ∨ node ∈ freedNodes outs

theorem Accounts.trans {w₁ w₂ w₃ : ClientWorld κ} {outs₁ outs₂ : List (ClientOut κ)}
    (first : Accounts w₁ w₂ outs₁) (second : Accounts w₂ w₃ outs₂) :
    Accounts w₁ w₃ (outs₁ ++ outs₂) := by
  intro node held
  rw [freedNodes_append, List.mem_append]
  rw [List.mem_append, ← or_assoc] at held
  have middle : node ∈ w₂.nodes ∨ .accepted node ∈ outs₂ ∨ node ∈ freedNodes outs₁ := by
    cases held with
    | inl early =>
        cases first node early with
        | inl kept => exact .inl kept
        | inr freed => exact .inr (.inr freed)
    | inr late => exact .inr (.inl late)
  rcases middle with kept | late | freed
  · exact (second node (.inl kept)).imp_right .inr
  · exact (second node (.inr late)).imp_right .inr
  · exact .inr (.inl freed)

theorem Accounts.quiet {w w' : ClientWorld κ} {outs : List (ClientOut κ)}
    (same : w'.nodes = w.nodes) (silent : ∀ node, .accepted node ∉ outs) : Accounts w w' outs := by
  intro node held
  rw [same]
  exact .inl (held.resolve_right (silent node))

theorem sendRequest_accounts (w : ClientWorld κ) (a : SendArgs κ) :
    Accounts w (sendRequest w a).world (sendRequest w a).outs := by
  simp only [sendRequest, getNextReqId]
  split
  · exact .quiet rfl (by simp)
  split
  · exact .quiet rfl (by simp)
  split
  · exact .quiet rfl (by simp)
  · simp only [reqNodeCreate]
    cases a.mallocOk with
    | false => exact .quiet rfl (by simp)
    | true =>
        cases a.timerOk with
        | false => exact .quiet rfl (by simp)
        | true =>
            intro node held
            left
            cases held with
            | inl old => exact List.mem_cons_of_mem _ old
            | inr new =>
                have same : node = w.issued + 1 := by simpa using new
                exact same ▸ List.mem_cons_self

theorem sendAll_accounts (w : ClientWorld κ) (sends : List (SendArgs κ)) :
    Accounts w (sendAll w sends).1 (sendAll w sends).2 := by
  induction sends generalizing w with
  | nil => exact .quiet rfl (by simp [sendAll])
  | cons a sends ih => exact (sendRequest_accounts w a).trans (ih _)

theorem invoke_accounts (w : ClientWorld κ) (req : MsgRequest κ) (args : Option CbArgs)
    (cause : Cause) (during : List (SendArgs κ)) :
    Accounts w (invoke w req args cause during).1 (invoke w req args cause during).2 := by
  rw [invoke.eq_def]
  split
  · rename_i cb ret data _
    have called : Accounts w w [.called ⟨req.node, cb, ret, data, cause⟩] := .quiet rfl (by simp)
    exact called.trans (sendAll_accounts w during)
  · exact .quiet rfl (by simp)

theorem retire_accounts (w : ClientWorld κ) (req : MsgRequest κ) :
    Accounts w (retire w req).1 (retire w req).2 := by
  have freed (outs : List (ClientOut κ)) : req.node ∈ freedNodes (outs ++ [.freed req.node]) := by
    rw [freedNodes_append]
    exact List.mem_append_right _ List.mem_cons_self
  have kept {node : Nat} (held : node ∈ w.nodes) (other : node ≠ req.node) :
      node ∈ w.nodes.erase req.node := (List.mem_erase_of_ne other).mpr held
  rw [retire, destroyReqNode]
  intro node held
  by_cases own : node = req.node
  · right
    subst own
    cases req.timer <;> exact freed _
  · left
    have before : node ∈ w.nodes := by
      cases timer : req.timer <;> simpa [timer, listDel] using held
    cases req.timer <;> exact kept before own

theorem destroyAll_accounts (w : ClientWorld κ) (reqs : List (MsgRequest κ)) :
    Accounts w (destroyAll w reqs).1 (destroyAll w reqs).2 := by
  induction reqs generalizing w with
  | nil => exact .quiet rfl (by simp [destroyAll])
  | cons req reqs ih => exact (retire_accounts w req).trans (ih _)

theorem step_accounts (codec : Codec) (w : ClientWorld κ) (e : Event κ) :
    Accounts w ((machine codec).next w e) ((machine codec).emit w e) := by
  have quiet : Accounts w w [] := .quiet rfl (by simp)
  have settles (req : MsgRequest κ) (args : Option CbArgs) (cause : Cause)
      (during : List (SendArgs κ)) :=
    (invoke_accounts w req args cause during).trans (retire_accounts _ req)
  change Accounts w (step codec w e).1 (step codec w e).2
  rw [step.eq_def]
  split
  · exact quiet
  cases e with
  | send a => exact sendRequest_accounts w a
  | frame reqId data during =>
      simp only [parseClientData]
      split
      · exact quiet
      split
      · exact quiet
      split
      · exact quiet
      · exact settles _ _ _ during
  | expire timer during =>
      simp only [msgClientReqTimerCb]
      split
      · exact quiet
      split
      · exact quiet
      · exact settles _ _ _ during
  | destroy => exact destroyAll_accounts w w.client.mRequestList

theorem run_accounts (codec : Codec) (w : ClientWorld κ) (es : List (Event κ)) :
    Accounts w ((machine codec).run w es) ((machine codec).trace w es) := by
  induction es generalizing w with
  | nil => exact .quiet rfl (by simp)
  | cons e es ih => exact (step_accounts codec w e).trans (ih _)

/-- The requests that a client has accepted: each has been freed, or is linked. -/
theorem accepted_settled (codec : Codec) (fd : Int) (uninit : UInt32) (es : List (Event κ))
    {node : Nat} (accepted : .accepted node ∈ (machine codec).trace (start fd uninit) es) :
    node ∈ freedNodes ((machine codec).trace (start fd uninit) es) ↔
      node ∉ ((machine codec).run (start fd uninit) es).client.mRequestList.map
        MsgRequest.node := by
  have turnover := run_turnover codec (ledger_start fd uninit : Ledger (start fd uninit)) es
  rw [← turnover.ledger.nodes]
  constructor
  · intro freed
    exact (turnover.gone node freed).2
  · intro unlinked
    exact (run_accounts codec _ es node (.inr accepted)).resolve_left unlinked

theorem called_once (codec : Codec) (fd : Int) (uninit : UInt32) (es : List (Event κ)) :
    ((calls ((machine codec).trace (start fd uninit) es)).map Call.node).Nodup := by
  rw [← calledNodes]
  apply (callbacks_oneShot codec).spent_nodup
  intro node pending
  rcases pending with ⟨req, linked, _⟩
  cases linked

end MsgClient

namespace TaskClient

def message? : TaskClientOut → Option (Nat × ClientOut LibCb)
  | .message client out => some (client, out)
  | _ => none

theorem messages (client : Nat) (outs : List (ClientOut LibCb)) :
    (outs.map (TaskClientOut.message client)).filterMap message? = outs.map (Prod.mk client) := by
  rw [List.filterMap_map]
  exact congrFun List.filterMap_eq_map outs

theorem deleteMsgClient_messages (client : Nat) (w : ClientWorld LibCb) :
    (deleteMsgClient client w).filterMap message? =
      (MsgClient.destroy w).2.map (Prod.mk client) := by
  rw [deleteMsgClient, List.filterMap_append, messages]
  exact List.append_nil _

def client? (s : TaskClient) : Option (Nat × ClientWorld LibCb) :=
  s.s_msg_client.map fun c => (c.1, MsgClient.drained c.2)

def NewClient (w : ClientWorld LibCb) : Prop := ∃ fd uninit, w = MsgClient.start fd uninit

abbrev Lives (codec : Codec) (s : TaskClient) (log : List TaskClientOut) : Prop :=
  Succession (MsgClient.machine codec) NewClient (· = .destroy) s.client? s.created
    (log.filterMap message?)

variable {codec : Codec} {s s' : TaskClient} {log outs : List TaskClientOut} {client : Nat}
  {w w' : ClientWorld LibCb}

theorem client?_of_current (current : s.s_msg_client = some (client, w)) :
    s.client? = some (client, MsgClient.drained w) := by
  rw [client?, current]
  rfl

namespace Lives

theorem same (lives : Lives codec s log) (kept : s'.client? = s.client?)
    (created : s'.created = s.created) (silent : outs.filterMap message? = []) :
    Lives codec s' (log ++ outs) := by
  rw [Lives, kept, created, List.filterMap_append, silent, List.append_nil]
  exact lives

theorem alive (lives : Lives codec s log) (current : s.s_msg_client = some (client, w)) :
    w.alive = true := by
  have born : ∀ w, NewClient w → w.alive = true := by
    rintro w ⟨fd, uninit, rfl⟩
    rfl
  have moves : ∀ (w : ClientWorld LibCb) (e : MsgClient.Event LibCb), w.alive = true →
      ¬ e = .destroy → ((MsgClient.machine codec).next w e).alive = true :=
    fun w e alive other => MsgClient.alive_next codec alive other
  have held := lives.invariant (fun w => w.alive = true) born moves (client?_of_current current)
  exact held

theorem moves (lives : Lives codec s log) (current : s.s_msg_client = some (client, w))
    (current' : s'.s_msg_client = some (client, w')) (created : s'.created = s.created)
    {e : MsgClient.Event LibCb} (other : e ≠ .destroy)
    (state : MsgClient.drained w' = MsgClient.drained (MsgClient.step codec w e).1)
    (tells : outs.filterMap message? = (MsgClient.step codec w e).2.map (Prod.mk client)) :
    Lives codec s' (log ++ outs) := by
  have stepped := MsgClient.step_drained codec w e
  rw [Lives, client?_of_current current] at lives
  have after := Succession.moves lives other
  rw [Lives, client?_of_current current', created, List.filterMap_append, tells, state]
  have next : (MsgClient.machine codec).next (MsgClient.drained w) e =
      MsgClient.drained (MsgClient.step codec w e).1 := by
    change (MsgClient.step codec (MsgClient.drained w) e).1 = _
    rw [stepped]
  have emit : (MsgClient.machine codec).emit (MsgClient.drained w) e =
      (MsgClient.step codec w e).2 := by
    change (MsgClient.step codec (MsgClient.drained w) e).2 = _
    rw [stepped]
  rw [next, emit] at after
  exact after

theorem dies (lives : Lives codec s log) (current : s.s_msg_client = some (client, w))
    (gone : s'.s_msg_client = none) (created : s'.created = s.created)
    (tells : outs.filterMap message? = (MsgClient.destroy w).2.map (Prod.mk client)) :
    Lives codec s' (log ++ outs) := by
  have alive := lives.alive current
  have stepped := congrArg Prod.snd (MsgClient.step_drained codec w .destroy)
  rw [Lives, client?_of_current current] at lives
  have after := Succession.dies (e := .destroy) lives rfl
  have emit : (MsgClient.machine codec).emit (MsgClient.drained w) .destroy =
      (MsgClient.destroy w).2 := by
    refine stepped.trans ?_
    simp [MsgClient.step, alive]
  rw [emit] at after
  have none_left : s'.client? = none := by rw [client?, gone]; rfl
  rw [Lives, none_left, created, List.filterMap_append, tells]
  exact after

theorem born (lives : Lives codec s log) (none : s.s_msg_client = none) {fd : Int} {uninit : UInt32}
    (current : s'.s_msg_client = some (s.created, MsgClient.start fd uninit))
    (created : s'.created = s.created + 1) (silent : outs.filterMap message? = []) :
    Lives codec s' (log ++ outs) := by
  have nobody : s.client? = .none := by rw [client?, none]; rfl
  rw [Lives, nobody] at lives
  rw [Lives, client?_of_current current, created, List.filterMap_append, silent, List.append_nil]
  exact .born lives ⟨fd, uninit, rfl⟩

end Lives

theorem runCallbacks_clients (s : TaskClient) (outs : List (ClientOut LibCb)) :
    (s.runCallbacks outs).s_msg_client = s.s_msg_client ∧
      (s.runCallbacks outs).created = s.created := by
  induction outs generalizing s with
  | nil => exact ⟨rfl, rfl⟩
  | cons o outs ih =>
      cases o with
      | called call =>
          rcases ih (s.heartbeatReqCb call.ret call.data) with ⟨client, created⟩
          have kept : (s.heartbeatReqCb call.ret call.data).s_msg_client = s.s_msg_client ∧
              (s.heartbeatReqCb call.ret call.data).created = s.created := by
            rw [heartbeatReqCb.eq_def]
            split
            · split <;> exact ⟨rfl, rfl⟩
            · exact ⟨rfl, rfl⟩
          exact ⟨client.trans kept.1, created.trans kept.2⟩
      | accepted node => exact ih s
      | timerDestroyed timer => exact ih s
      | freed node => exact ih s

namespace Lives

theorem fail (lives : Lives codec s log) (client : Nat) :
    Lives codec (s.fail client).1 (log ++ (s.fail client).2) := lives.same rfl rfl rfl

theorem recvData (lives : Lives codec s log) (current : s.s_msg_client = some (client, w))
    (call : RecvCall) :
    Lives codec (s.recvData codec client w call).2.1
      (log ++ (s.recvData codec client w call).2.2) := by
  let r := MsgClient.recvData codec w call []
  have hands : r.parsed = r.package.map (MsgClient.parsePackage codec [] w · |>.2) :=
    recvData_hands (MsgClient.parsePackage codec [] w) w.client.mRb call
  let after := (r.parsed.getD (w, [])).1
  let s₁ : TaskClient :=
    { s with
      s_msg_client := some (client, { after with client := { after.client with mRb := r.rb } }) }
  rcases s₁.runCallbacks_clients (r.parsed.getD (w, [])).2 with ⟨kept, created⟩
  cases taken : r.package with
  | none =>
      rw [taken, Option.map_none] at hands
      have silent : (r.parsed.getD (w, [])).2 = [] := by rw [hands]; rfl
      refine lives.same ?_ created ?_
      · change (s₁.runCallbacks (r.parsed.getD (w, [])).2).client? = _
        rw [client?_of_current current, client?_of_current kept]
        have still : after = w := by
          change (r.parsed.getD (w, [])).1 = w
          rw [hands]
          rfl
        rw [still]
        rfl
      · change ((r.parsed.getD (w, [])).2.map _).filterMap message? = []
        rw [silent]
        rfl
  | some package =>
      rw [taken, Option.map_some] at hands
      have stepped : MsgClient.step codec w
          (.frame package.reqId (package.data.drop dataHeadLen.toNat) []) =
            (MsgClient.parsePackage codec [] w package).2 := by
        simp [MsgClient.step, lives.alive current, MsgClient.parsePackage]
      have parsed : r.parsed.getD (w, []) = (MsgClient.parsePackage codec [] w package).2 := by
        rw [hands]
        rfl
      refine lives.moves current kept created
        (e := .frame package.reqId (package.data.drop dataHeadLen.toNat) []) (by simp) ?_ ?_
      · rw [stepped, ← parsed]
        rfl
      · rw [stepped, ← parsed]
        exact messages client _

theorem clientReadioCb (accepted mallocOk : Bool) (lives : Lives codec s log)
    (current : s.s_msg_client = some (client, w)) (reads : List ReadResult) :
    Lives codec (clientReadioCb codec accepted mallocOk client w s reads).1
      (log ++ (clientReadioCb codec accepted mallocOk client w s reads).2) := by
  induction reads generalizing s log with
  | nil => exact lives.same rfl rfl rfl
  | cons result reads ih =>
      cases result with
      | interrupted => exact ih lives current
      | failed =>
          have later := ih (lives.fail client) current
          rw [List.append_assoc] at later
          exact later
      | bytes data =>
          rw [TaskClient.clientReadioCb]
          split
          · exact lives.fail client
          · have received := lives.recvData current ⟨data.take globalBufLen, accepted, mallocOk⟩
            dsimp only
            split
            · rw [← List.append_assoc]
              exact received.fail client
            · exact received

theorem sendReqHearbeat (lives : Lives codec s log) (pid : Int) (env : SendEnv) :
    Lives codec (s.sendReqHearbeat codec pid env).1
      (log ++ (s.sendReqHearbeat codec pid env).2) := by
  rw [TaskClient.sendReqHearbeat.eq_def]
  split
  · exact lives.same rfl rfl rfl
  · rename_i client w current
    dsimp only
    rcases MsgClient.sendTree_cases codec env w .heartbeat
      (MsgClient.hearbeatTree env.alloc pid s.s_heartbeat_timeout) (some .heartbeatReqCb) with
      silent | ⟨root, a, _, _, _, sent⟩
    · rw [MsgClient.sendReqHearbeat, silent]
      refine lives.same ?_ rfl rfl
      rw [client?_of_current current]
      rfl
    · rw [MsgClient.sendReqHearbeat, sent]
      have stepped : MsgClient.step codec w (.send a) =
          ((MsgClient.sendRequest w a).world, (MsgClient.sendRequest w a).outs) := by
        simp [MsgClient.step, lives.alive current]
      refine lives.moves current rfl rfl (e := .send a) (by simp) (by rw [stepped]) ?_
      rw [stepped, List.filterMap_append, messages]
      exact List.append_nil _

theorem requestTimerCb (lives : Lives codec s log) (timer : Nat) :
    Lives codec (s.requestTimerCb codec timer).1 (log ++ (s.requestTimerCb codec timer).2) := by
  rw [TaskClient.requestTimerCb.eq_def]
  split
  · exact lives.same rfl rfl rfl
  · rename_i client w current
    dsimp only
    rcases runCallbacks_clients
      { s with s_msg_client := some (client, (MsgClient.step codec w (.expire timer [])).1) }
      (MsgClient.step codec w (.expire timer [])).2 with ⟨kept, created⟩
    exact lives.moves current kept created (e := .expire timer []) (by simp) rfl (messages client _)

theorem clearGlobalData (lives : Lives codec s log) :
    Lives codec s.clearGlobalData.1 (log ++ s.clearGlobalData.2) := by
  have closed : (if s.s_client_fd > 0 then [TaskClientOut.closed s.s_client_fd] else []).filterMap
      message? = [] := by
    split <;> rfl
  have unwatched : (s.s_client_io.toList.map TaskClientOut.unwatched).filterMap message? = [] := by
    cases s.s_client_io <;> rfl
  rw [TaskClient.clearGlobalData]
  cases current : s.s_msg_client with
  | none =>
      refine lives.same ?_ rfl ?_
      · rw [client?, client?, current]
      · rw [List.filterMap_append, List.filterMap_append, closed, unwatched]
        rfl
  | some entry =>
      refine lives.dies current rfl rfl ?_
      rw [List.filterMap_append, List.filterMap_append, closed, unwatched]
      exact deleteMsgClient_messages entry.1 entry.2

theorem connectToServer (lives : Lives codec s log) (pid : Int) (env : ReconnectEnv) :
    Lives codec (s.connectToServer codec pid env).2.1
      (log ++ (s.connectToServer codec pid env).2.2) := by
  have cleared := lives.clearGlobalData
  have gone : s.clearGlobalData.1.s_msg_client = none := rfl
  rw [TaskClient.connectToServer.eq_def]
  generalize s.clearGlobalData = r at cleared gone
  rcases r with ⟨s₁, outs₁⟩
  dsimp only at cleared gone ⊢
  split
  · exact cleared
  split
  · rw [List.append_assoc outs₁, ← List.append_assoc log]
    exact cleared.same rfl rfl rfl
  split
  · rw [← List.append_assoc]
    exact cleared.same rfl rfl rfl
  · rename_i uninit memory
    let w : ClientWorld LibCb := MsgClient.start env.socket uninit
    let s₂ : TaskClient :=
      { s₁ with created := s₁.created + 1, s_msg_client := some (s₁.created, w) }
    have made : Lives codec s₂ (log ++ outs₁ ++ [.opened env.socket]) :=
      cleared.born gone rfl rfl rfl
    split
    · have listed : log ++ (outs₁ ++ [.opened env.socket] ++ deleteMsgClient s₁.created w ++
          [.closed env.socket]) = log ++ outs₁ ++ [.opened env.socket] ++
            deleteMsgClient s₁.created w ++ [.closed env.socket] := by
        simp
      have deleted : Lives codec { s₁ with created := s₁.created + 1 }
          (log ++ outs₁ ++ [.opened env.socket] ++ deleteMsgClient s₁.created w) :=
        made.dies rfl gone rfl (deleteMsgClient_messages s₁.created w)
      rw [listed]
      exact deleted.same rfl rfl rfl
    · have used : Lives codec ({ s₁ with created := s₁.created + 1 }.setGlobalData env.socket
          ⟨env.socket, s₁.created⟩ (s₁.created, w))
          (log ++ outs₁ ++ [.opened env.socket] ++ [.connected s₁.created]) :=
        made.same rfl rfl rfl
      have sent := used.sendReqHearbeat pid env.send
      generalize TaskClient.sendReqHearbeat codec pid _ env.send = r at sent
      rcases r with ⟨s₃, sends⟩
      dsimp only at sent ⊢
      have listed : log ++ (outs₁ ++ [.opened env.socket] ++ .connected s₁.created :: sends) =
          log ++ outs₁ ++ [.opened env.socket] ++ [.connected s₁.created] ++ sends ++ [] := by
        simp
      rw [listed]
      exact sent.same rfl rfl rfl

theorem connectServerEventCb (lives : Lives codec s log) (pid : Int) (env : ReconnectEnv) :
    Lives codec (s.connectServerEventCb codec pid env).1
      (log ++ (s.connectServerEventCb codec pid env).2) := by
  have connected := lives.connectToServer pid env
  rw [TaskClient.connectServerEventCb]
  generalize s.connectToServer codec pid env = r at connected
  rcases r with ⟨ret, s', outs⟩
  cases ret with
  | none =>
      dsimp only at connected ⊢
      rw [← List.append_assoc]
      exact connected.same rfl rfl rfl
  | some fd =>
      dsimp only at connected ⊢
      split
      · rw [← List.append_assoc]
        exact connected.same rfl rfl rfl
      · exact connected

theorem next (lives : Lives codec s log) (pid : Int) (e : TaskClientEvent) :
    Lives codec ((machine codec pid).next s e) (log ++ (machine codec pid).emit s e) := by
  change Lives codec (step codec pid s e).1 (log ++ (step codec pid s e).2)
  have quiet : Lives codec s (log ++ []) := lives.same rfl rfl rfl
  rw [step]
  split
  · cases e with
    | readable env =>
        rw [deliver, readable.eq_def]
        split
        · rename_i io client w watched current
          split
          · exact lives.clientReadioCb env.accepted env.mallocOk current env.reads
          · exact lives.same rfl rfl rfl
        · exact lives.same rfl rfl rfl
        · exact quiet
    | heartbeatTimer env =>
        rw [deliver, heartbeatTimerCb]
        split
        · exact quiet
        · have rearmed : Lives codec
              { s with s_heartbeat_timer := s.s_heartbeat_timer.restart } (log ++ []) :=
            lives.same rfl rfl rfl
          rw [List.append_nil] at rearmed
          exact rearmed.sendReqHearbeat pid env
    | requestTimer timer => exact lives.requestTimerCb timer
    | reconnect env =>
        rw [deliver]
        split
        · exact quiet
        · have taken : Lives codec { s with pending := s.pending - 1 } (log ++ []) :=
            lives.same rfl rfl rfl
          rw [List.append_nil] at taken
          exact taken.connectServerEventCb pid env
  · exact quiet

theorem run (lives : Lives codec s log) (pid : Int) (es : List TaskClientEvent) :
    Lives codec ((machine codec pid).run s es) (log ++ (machine codec pid).trace s es) := by
  have recorded := (machine codec pid).recording.run_invariant_all (fun x => Lives codec x.1 x.2)
    (fun x e held => held.next pid e) (s := (s, log)) es lives
  rw [recording_run] at recorded
  exact recorded

theorem started {instOk timerOk : Bool} {random : UInt32} {start : TaskClient}
    (started : threadStartCb instOk random timerOk = some start) : Lives codec start [] := by
  rw [threadStartCb] at started
  split at started
  · cases started
  split at started
  · cases started
  · obtain rfl := Option.some.inj started
    exact .start

end Lives

def messagesOf (client : Nat) (log : List TaskClientOut) : List (ClientOut LibCb) :=
  (log.filterMap message?).filterMap (Together.out? client)

structure Lived (codec : Codec) (s : TaskClient) (log : List TaskClientOut) (client : Nat)
    (fd : Int) (uninit : UInt32) (es : List (MsgClient.Event LibCb)) : Prop where
  outs : messagesOf client log = (MsgClient.machine codec).trace (MsgClient.start fd uninit) es
  state : (∃ w, s.s_msg_client = some (client, w) ∧
      MsgClient.drained w = (MsgClient.machine codec).run (MsgClient.start fd uninit) es ∧
        .destroy ∉ es) ∨
    ((∀ w, s.s_msg_client ≠ some (client, w)) ∧
      ∃ front, es = front ++ [.destroy] ∧ .destroy ∉ front)

theorem Lives.lived (lives : Lives codec s log) (old : client < s.created) :
    ∃ fd uninit es, Lived codec s log client fd uninit es := by
  rcases Succession.life lives old with ⟨_, es, ⟨fd, uninit, rfl⟩, outs, state⟩
  refine ⟨fd, uninit, es, outs, ?_⟩
  cases state with
  | inl present =>
      rcases Option.map_eq_some_iff.mp present.1 with ⟨⟨c, w⟩, current, same⟩
      obtain ⟨rfl, drained⟩ := Prod.mk.inj same
      exact .inl ⟨w, current, drained, fun member => present.2 _ member rfl⟩
  | inr ended =>
      rcases ended with ⟨gone, front, e, rfl, rfl, others⟩
      refine .inr ⟨?_, front, rfl, fun member => others _ member rfl⟩
      intro w current
      exact gone _ (client?_of_current current)

theorem Lived.pending_iff {fd : Int} {uninit : UInt32} {es : List (MsgClient.Event LibCb)}
    (life : Lived codec s log client fd uninit es) {node : Nat} :
    (∀ w, s.s_msg_client = some (client, w) → node ∉ w.client.mRequestList.map MsgRequest.node) ↔
      node ∉ ((MsgClient.machine codec).run (MsgClient.start fd uninit) es).client.mRequestList.map
        MsgRequest.node := by
  cases life.state with
  | inl present =>
      rcases present with ⟨w, current, drained, _⟩
      rw [← drained]
      constructor
      · intro unlinked
        exact unlinked w current
      · intro unlinked v same
        obtain ⟨_, rfl⟩ := Prod.mk.inj (Option.some.inj (current.symm.trans same))
        exact unlinked
  | inr ended =>
      rcases ended with ⟨gone, front, rfl, _⟩
      have empty := MsgClient.run_destroyed codec (MsgClient.ledger_start fd uninit) rfl
        (List.mem_append_right front (List.mem_singleton_self (.destroy : MsgClient.Event LibCb)))
      rw [empty]
      constructor
      · intro _
        exact List.not_mem_nil
      · intro _ w current
        exact absurd current (gone w)

theorem Lives.ofStart {instOk timerOk : Bool} {random : UInt32} {start : TaskClient} {pid : Int}
    (started : threadStartCb instOk random timerOk = some start) (init : ReconnectEnv)
    (initialised : start.instInitCb codec pid init = (s, outs)) (es : List TaskClientEvent) :
    Lives codec ((machine codec pid).run s es) (outs ++ (machine codec pid).trace s es) := by
  have begins := (Lives.started started : Lives codec start []).connectServerEventCb pid init
  rw [instInitCb] at initialised
  rw [initialised] at begins
  exact begins.run pid es

end TaskClient

open TaskClient

variable (codec : Codec) (pid : Int) {instOk timerOk : Bool} {random : UInt32}
  {start s : TaskClient} {begun : List TaskClientOut}

/-- Over every run of the library its clients are runs of `MsgClient`, one after another: each
begins as its constructor leaves it, and each but the one in use has ended with its destructor. -/
theorem library_clients (started : threadStartCb instOk random timerOk = some start)
    (init : ReconnectEnv) (initialised : start.instInitCb codec pid init = (s, begun))
    (es : List TaskClientEvent) (client : Nat) :
    let s' := (TaskClient.machine codec pid).run s es
    let log := begun ++ (TaskClient.machine codec pid).trace s es
    (s'.created ≤ client → messagesOf client log = []) ∧
      (client < s'.created → ∃ fd uninit xs, Lived codec s' log client fd uninit xs) := by
  intro s' log
  have lives : Lives codec s' log := .ofStart started init initialised es
  constructor
  · intro later
    exact Succession.unborn lives later
  · intro old
    exact lives.lived old

/-- The connection is replaced: the first client has gone, with its heartbeat request. -/
theorem library_clients_two :
    let s' := (TaskClient.machine textCodec 40).run connectedClient [endOfFile, .reconnect connects]
    let log := (startedClient.instInitCb textCodec 40 connects).2 ++
      (TaskClient.machine textCodec 40).trace connectedClient [endOfFile, .reconnect connects]
    s'.created = 2 ∧ messagesOf 2 log = [] ∧
      ∃ fd uninit xs, Lived textCodec s' log 0 fd uninit xs := by
  intro s' log
  have started : threadStartCb true 3 true = some startedClient := rfl
  have created : s'.created = 2 := by decide +kernel
  have clients (client : Nat) := library_clients textCodec 40 started connects rfl
    [endOfFile, .reconnect connects] client
  have second := (clients 2).1 (Nat.le_of_eq created)
  exact ⟨created, second, (clients 0).2 (created ▸ Nat.zero_lt_two)⟩

/-- In every run of the library a request of any of its clients is called back at most once and
freed at most once, and an accepted one has been freed exactly if it is not pending: none is lost,
or left behind, when a connection is replaced. -/
theorem requests_settled_once (started : threadStartCb instOk random timerOk = some start)
    (init : ReconnectEnv) (initialised : start.instInitCb codec pid init = (s, begun))
    (es : List TaskClientEvent) (client : Nat) :
    let s' := (TaskClient.machine codec pid).run s es
    let outs := messagesOf client (begun ++ (TaskClient.machine codec pid).trace s es)
    ((MsgClient.calls outs).map Call.node).Nodup ∧ (MsgClient.freedNodes outs).Nodup ∧
      ∀ node, .accepted node ∈ outs →
        (node ∈ MsgClient.freedNodes outs ↔ ∀ w, s'.s_msg_client = some (client, w) →
          node ∉ w.client.mRequestList.map MsgRequest.node) := by
  intro s' outs
  have lives : Lives codec s' (begun ++ (TaskClient.machine codec pid).trace s es) :=
    .ofStart started init initialised es
  by_cases old : client < s'.created
  · rcases lives.lived old with ⟨fd, uninit, xs, life⟩
    have turnover := MsgClient.run_turnover codec
      (MsgClient.ledger_start fd uninit : MsgClient.Ledger (MsgClient.start fd uninit)) xs
    have same : outs = (MsgClient.machine codec).trace (MsgClient.start fd uninit) xs := life.outs
    rw [same]
    refine ⟨MsgClient.called_once codec fd uninit xs, turnover.once, ?_⟩
    intro node accepted
    rw [MsgClient.accepted_settled codec fd uninit xs accepted, life.pending_iff]
  · have silent : outs = [] := Succession.unborn lives (Nat.le_of_not_lt old)
    rw [silent]
    exact ⟨List.nodup_nil, List.nodup_nil, nofun⟩

deriving instance DecidableEq for ClientOut

/-- The heartbeat request of the connection that ends is freed without a callback. -/
theorem requests_settled_once_two :
    let s' := (TaskClient.machine textCodec 40).run connectedClient [endOfFile, .reconnect connects]
    let outs := messagesOf 0 ((startedClient.instInitCb textCodec 40 connects).2 ++
      (TaskClient.machine textCodec 40).trace connectedClient [endOfFile, .reconnect connects])
    outs = [.accepted 1, .timerDestroyed 1, .freed 1] ∧
      (1 ∈ MsgClient.freedNodes outs ↔ ∀ w, s'.s_msg_client = some (0, w) →
        1 ∉ w.client.mRequestList.map MsgRequest.node) := by
  intro s' outs
  have started : threadStartCb true 3 true = some startedClient := rfl
  have listed : outs = [.accepted 1, .timerDestroyed 1, .freed 1] := by decide +kernel
  have settled := requests_settled_once textCodec 40 started connects rfl
    [endOfFile, .reconnect connects] 0
  refine ⟨listed, settled.2.2 1 ?_⟩
  change .accepted 1 ∈ outs
  rw [listed]
  exact List.mem_cons_self

end TaskMonitor
