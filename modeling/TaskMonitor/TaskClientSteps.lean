import TaskMonitor.TaskClient

/-! What the callbacks of the client library do to its globals and to its descriptors. -/

namespace TaskMonitor

open CText Cjson

namespace MsgClient

variable {κ : Type*}

theorem sendRequest_mClientFd (w : ClientWorld κ) (a : SendArgs κ) :
    (sendRequest w a).world.client.mClientFd = w.client.mClientFd := by
  rw [sendRequest]
  dsimp only
  split
  · rfl
  split
  · rfl
  split
  · rfl
  rw [reqNodeCreate]
  cases a.mallocOk with
  | false => rfl
  | true => cases a.timerOk <;> rfl

theorem sendTree_mClientFd (codec : Codec) (env : SendEnv) (w : ClientWorld κ) (type : EventType)
    (tree : Option Json) (cb : Option κ) :
    (sendTree codec env w type tree cb).world.client.mClientFd = w.client.mClientFd := by
  cases tree with
  | none => rfl
  | some root =>
      rw [sendTree]
      split
      · exact sendRequest_mClientFd w _
      · rfl

theorem retire_mClientFd (w : ClientWorld κ) (req : MsgRequest κ) :
    (retire w req).1.client.mClientFd = w.client.mClientFd := by
  rw [retire, destroyReqNode]
  cases req.timer <;> rfl

theorem parseClientData_mClientFd (codec : Codec) (w : ClientWorld κ) (reqId : UInt32)
    (data : List UInt8) (during : List (SendArgs κ)) :
    (parseClientData codec w reqId data during).2.1.client.mClientFd = w.client.mClientFd :=
  parseClientData_keeps (fun w => w.client.mClientFd) sendRequest_mClientFd
    retire_mClientFd codec w reqId data during

theorem expire_mClientFd (codec : Codec) (w : ClientWorld κ) (timer : Nat)
    (during : List (SendArgs κ)) :
    (step codec w (.expire timer during)).1.client.mClientFd = w.client.mClientFd :=
  step_keeps (fun w => w.client.mClientFd) sendRequest_mClientFd retire_mClientFd codec w
    (by simp)

end MsgClient

def ReconnectEnv.Throws (env : ReconnectEnv) : Prop :=
  0 ≤ env.socket ∧ env.connectOk = true ∧ env.clientMemory = none

instance ReconnectEnv.decidableThrows (env : ReconnectEnv) : Decidable env.Throws :=
  inferInstanceAs (Decidable (_ ∧ _))

namespace TaskClient

def connectionOf (x : Nat × ClientWorld LibCb) : Nat × Int := (x.1, x.2.client.mClientFd)

structure SameConnection (s s' : TaskClient) : Prop where
  pending : s'.pending = s.pending
  s_client_fd : s'.s_client_fd = s.s_client_fd
  s_client_io : s'.s_client_io = s.s_client_io
  s_msg_client : s'.s_msg_client.map connectionOf = s.s_msg_client.map connectionOf

theorem SameConnection.refl (s : TaskClient) : SameConnection s s := ⟨rfl, rfl, rfl, rfl⟩

theorem SameConnection.trans {s₁ s₂ s₃ : TaskClient} (first : SameConnection s₁ s₂)
    (second : SameConnection s₂ s₃) : SameConnection s₁ s₃ :=
  ⟨second.pending.trans first.pending, second.s_client_fd.trans first.s_client_fd,
    second.s_client_io.trans first.s_client_io, second.s_msg_client.trans first.s_msg_client⟩

theorem SameConnection.replace {s : TaskClient} {client : Nat} {w w' : ClientWorld LibCb}
    (current : s.s_msg_client = some (client, w)) (same : w'.client.mClientFd = w.client.mClientFd)
    (returned : Bool) :
    SameConnection s { s with s_msg_client := some (client, w'), returned := returned } := by
  refine ⟨rfl, rfl, rfl, ?_⟩
  rw [current]
  exact congrArg (fun fd => some (client, fd)) same

theorem SameConnection.address {s s' : TaskClient} (same : SameConnection s s') :
    s'.s_msg_client.map Prod.fst = s.s_msg_client.map Prod.fst := by
  have addresses := congrArg (Option.map Prod.fst) same.s_msg_client
  rwa [Option.map_map, Option.map_map] at addresses

structure Kept (s s' : TaskClient) : Prop where
  pending : s.pending ≤ s'.pending
  s_client_fd : s'.s_client_fd = s.s_client_fd
  s_client_io : s'.s_client_io = s.s_client_io
  s_msg_client : s'.s_msg_client.map connectionOf = s.s_msg_client.map connectionOf

theorem Kept.refl (s : TaskClient) : Kept s s := ⟨le_rfl, rfl, rfl, rfl⟩

theorem Kept.trans {s₁ s₂ s₃ : TaskClient} (first : Kept s₁ s₂) (second : Kept s₂ s₃) :
    Kept s₁ s₃ :=
  ⟨first.pending.trans second.pending, second.s_client_fd.trans first.s_client_fd,
    second.s_client_io.trans first.s_client_io, second.s_msg_client.trans first.s_msg_client⟩

theorem SameConnection.kept {s s' : TaskClient} (same : SameConnection s s') : Kept s s' :=
  ⟨same.pending.ge, same.s_client_fd, same.s_client_io, same.s_msg_client⟩

theorem fail_kept (s : TaskClient) (client : Nat) : Kept s (s.fail client).1 :=
  ⟨Nat.le_succ _, rfl, rfl, rfl⟩

theorem heartbeatReqCb_same (s : TaskClient) (ret : Int) (rsp : Option RspData) :
    SameConnection s (s.heartbeatReqCb ret rsp) := by
  rw [heartbeatReqCb.eq_def]
  split
  · split
    · exact ⟨rfl, rfl, rfl, rfl⟩
    · exact .refl s
  · exact .refl s

theorem runCallbacks_same (s : TaskClient) (outs : List (ClientOut LibCb)) :
    SameConnection s (s.runCallbacks outs) := by
  induction outs generalizing s with
  | nil => exact .refl s
  | cons o outs ih =>
      cases o with
      | called call => exact (s.heartbeatReqCb_same call.ret call.data).trans (ih _)
      | accepted node => exact ih s
      | timerDestroyed timer => exact ih s
      | freed node => exact ih s

theorem recvData_same (codec : Codec) {s : TaskClient} {client : Nat} {w : ClientWorld LibCb}
    (current : s.s_msg_client = some (client, w)) (call : RecvCall) :
    SameConnection s (s.recvData codec client w call).2.1 := by
  have parsed := recvData_parsed
    (Q := fun p : ClientWorld LibCb × List (ClientOut LibCb) =>
      p.1.client.mClientFd = w.client.mClientFd)
    (MsgClient.parsePackage codec [] w)
    (fun package => MsgClient.parseClientData_mClientFd codec w package.reqId _ [])
    w.client.mRb call
  have same : ((MsgClient.recvData codec w call []).parsed.getD (w, [])).1.client.mClientFd =
      w.client.mClientFd := by
    rw [MsgClient.recvData]
    cases received : (TaskMonitor.recvData (MsgClient.parsePackage codec [] w) w.client.mRb
        call).parsed with
    | none => rfl
    | some p => exact parsed p received
  rw [recvData]
  dsimp only
  apply SameConnection.trans _ (runCallbacks_same _ _)
  apply SameConnection.replace current
  exact same

theorem sendReqHearbeat_same (codec : Codec) (pid : Int) (s : TaskClient) (env : SendEnv) :
    SameConnection s (s.sendReqHearbeat codec pid env).1 := by
  rw [sendReqHearbeat.eq_def]
  split
  · exact .refl s
  · rename_i client w current
    exact .replace current (MsgClient.sendTree_mClientFd codec env w .heartbeat _ _) _

theorem heartbeatTimerCb_same (codec : Codec) (pid : Int) (s : TaskClient) (env : SendEnv) :
    SameConnection s (s.heartbeatTimerCb codec pid env).1 := by
  rw [heartbeatTimerCb]
  split
  · exact .refl s
  · have rearmed : SameConnection s
        { s with s_heartbeat_timer := s.s_heartbeat_timer.restart } := ⟨rfl, rfl, rfl, rfl⟩
    exact rearmed.trans (sendReqHearbeat_same codec pid _ env)

theorem requestTimerCb_same (codec : Codec) (s : TaskClient) (timer : Nat) :
    SameConnection s (s.requestTimerCb codec timer).1 := by
  rw [requestTimerCb.eq_def]
  split
  · exact .refl s
  · rename_i client w current
    have same := MsgClient.expire_mClientFd codec w timer []
    exact (SameConnection.replace current same s.returned).trans (runCallbacks_same _ _)

theorem clientReadioCb_kept (codec : Codec) (accepted mallocOk : Bool) {client : Nat}
    {w : ClientWorld LibCb} {s : TaskClient} (current : s.s_msg_client = some (client, w))
    (reads : List ReadResult) :
    Kept s (clientReadioCb codec accepted mallocOk client w s reads).1 := by
  induction reads generalizing s with
  | nil => exact ⟨le_rfl, rfl, rfl, rfl⟩
  | cons result reads ih =>
      cases result with
      | interrupted => exact ih current
      | failed =>
          have posted : s.sendEventDelay.s_msg_client = some (client, w) := current
          exact (s.fail_kept client).trans (ih posted)
      | bytes data =>
          rw [clientReadioCb]
          split
          · exact s.fail_kept client
          · have received :=
              (recvData_same codec current ⟨data.take globalBufLen, accepted, mallocOk⟩).kept
            dsimp only
            split
            · exact received.trans (fail_kept _ client)
            · exact received

def openedFd : TaskClientOut → Option Int
  | .opened fd => some fd
  | _ => none

def openedFds (outs : List TaskClientOut) : List Int := outs.filterMap openedFd

def closedFd : TaskClientOut → Option Int
  | .closed fd => some fd
  | _ => none

def closedFds (outs : List TaskClientOut) : List Int := outs.filterMap closedFd

structure Fds (outs : List TaskClientOut) (opened closed : List Int) : Prop where
  opened : openedFds outs = opened
  closed : closedFds outs = closed

abbrev Silent (outs : List TaskClientOut) : Prop := Fds outs [] []

theorem silent_nil : Silent [] := ⟨rfl, rfl⟩

theorem Fds.append {front back : List TaskClientOut} {opened closed opened' closed' : List Int}
    (first : Fds front opened closed) (second : Fds back opened' closed') :
    Fds (front ++ back) (opened ++ opened') (closed ++ closed') := by
  constructor
  · rw [openedFds, List.filterMap_append]
    exact congrArg₂ (· ++ ·) first.opened second.opened
  · rw [closedFds, List.filterMap_append]
    exact congrArg₂ (· ++ ·) first.closed second.closed

theorem Fds.quiet {front back : List TaskClientOut} {opened closed : List Int}
    (first : Fds front opened closed) (silent : Silent back) :
    Fds (front ++ back) opened closed := by
  have joined := first.append silent
  rwa [List.append_nil, List.append_nil] at joined

theorem Fds.opens {front : List TaskClientOut} {closed : List Int} (first : Fds front [] closed)
    (fd : Int) : Fds (front ++ [.opened fd]) [fd] closed := by
  have joined := first.append (⟨rfl, rfl⟩ : Fds [.opened fd] [fd] [])
  rwa [List.nil_append, List.append_nil] at joined

theorem Fds.closes {front : List TaskClientOut} {opened closed : List Int}
    (first : Fds front opened closed) (fd : Int) :
    Fds (front ++ [.closed fd]) opened (closed ++ [fd]) := by
  have joined := first.append (⟨rfl, rfl⟩ : Fds [.closed fd] [] [fd])
  rwa [List.append_nil] at joined

theorem silent_messages (client : Nat) (outs : List (ClientOut LibCb)) :
    Silent (outs.map (.message client)) := by
  constructor
  · rw [openedFds, List.filterMap_map]
    exact List.filterMap_eq_nil_iff.mpr fun _ _ => rfl
  · rw [closedFds, List.filterMap_map]
    exact List.filterMap_eq_nil_iff.mpr fun _ _ => rfl

theorem deleteMsgClient_silent (client : Nat) (w : ClientWorld LibCb) :
    Silent (deleteMsgClient client w) := (silent_messages client _).quiet ⟨rfl, rfl⟩

theorem sendReqHearbeat_silent (codec : Codec) (pid : Int) (s : TaskClient) (env : SendEnv) :
    Silent (s.sendReqHearbeat codec pid env).2 := by
  rw [sendReqHearbeat.eq_def]
  split
  · exact silent_nil
  · exact (silent_messages _ _).quiet ⟨rfl, rfl⟩

theorem heartbeatTimerCb_silent (codec : Codec) (pid : Int) (s : TaskClient) (env : SendEnv) :
    Silent (s.heartbeatTimerCb codec pid env).2 := by
  rw [heartbeatTimerCb]
  split
  · exact silent_nil
  · exact sendReqHearbeat_silent codec pid _ env

theorem requestTimerCb_silent (codec : Codec) (s : TaskClient) (timer : Nat) :
    Silent (s.requestTimerCb codec timer).2 := by
  rw [requestTimerCb.eq_def]
  split
  · exact silent_nil
  · exact silent_messages _ _

theorem clientReadioCb_silent (codec : Codec) (accepted mallocOk : Bool) (client : Nat)
    (w : ClientWorld LibCb) (s : TaskClient) (reads : List ReadResult) :
    Silent (clientReadioCb codec accepted mallocOk client w s reads).2 := by
  induction reads generalizing s with
  | nil => exact silent_nil
  | cons result reads ih =>
      cases result with
      | interrupted => exact ih s
      | failed => exact Fds.quiet ⟨rfl, rfl⟩ (ih s.sendEventDelay)
      | bytes data =>
          rw [clientReadioCb]
          split
          · exact ⟨rfl, rfl⟩
          · have received := silent_messages client
              ((MsgClient.recvData codec w ⟨data.take globalBufLen, accepted, mallocOk⟩
                []).parsed.getD (w, [])).2
            dsimp only
            split
            · exact received.quiet ⟨rfl, rfl⟩
            · exact received

def released (s : TaskClient) : List Int := if s.s_client_fd > 0 then [s.s_client_fd] else []

theorem clearGlobalData_fds (s : TaskClient) : Fds s.clearGlobalData.2 [] s.released := by
  have closed : Fds (if s.s_client_fd > 0 then [.closed s.s_client_fd] else []) [] s.released := by
    rw [released]
    split <;> exact ⟨rfl, rfl⟩
  have unwatched : Silent (s.s_client_io.toList.map .unwatched) := by
    cases s.s_client_io <;> exact ⟨rfl, rfl⟩
  rw [clearGlobalData]
  cases s.s_msg_client with
  | none => exact (closed.quiet unwatched).quiet silent_nil
  | some entry => exact (closed.quiet unwatched).quiet (deleteMsgClient_silent entry.1 entry.2)

structure Cleared (s s' : TaskClient) : Prop where
  s_client_fd : s'.s_client_fd = if s.s_client_fd > 0 then -1 else s.s_client_fd
  s_client_io : s'.s_client_io = none
  s_msg_client : s'.s_msg_client = none

inductive Connecting (s : TaskClient) (env : ReconnectEnv) (s' : TaskClient)
    (outs : List TaskClientOut) : Prop where
  | refused (spared : ¬ env.Throws) (cleared : Cleared s s') (posted : s'.pending = s.pending + 1)
      (fds : Fds outs [] s.released)
  | undone (spared : ¬ env.Throws) (cleared : Cleared s s') (posted : s'.pending = s.pending + 1)
      (fds : Fds outs [env.socket] (s.released ++ [env.socket]))
  | threw (throws : env.Throws) (cleared : Cleared s s') (busy : s'.returned = false)
      (pending : s'.pending = s.pending) (fds : Fds outs [env.socket] s.released)
  | connected (spared : ¬ env.Throws) (socket : 0 ≤ env.socket)
      (s_client_fd : s'.s_client_fd = env.socket)
      (s_client_io : s'.s_client_io = some ⟨env.socket, s.created⟩)
      (s_msg_client : s'.s_msg_client.map connectionOf = some (s.created, env.socket))
      (pending : s'.pending = s.pending) (fds : Fds outs [env.socket] s.released)

def attached (s : TaskClient) (fd : Int) (uninit : UInt32) : TaskClient :=
  { s with created := s.created + 1 }.setGlobalData fd ⟨fd, s.created⟩
    (s.created, MsgClient.start fd uninit)

inductive Connection (codec : Codec) (pid : Int) (s : TaskClient) (outs : List TaskClientOut)
    (env : ReconnectEnv) : TaskClient → List TaskClientOut → Prop where
  | unopened (closed : env.socket < 0) :
      Connection codec pid s outs env s.sendEventDelay (outs ++ [.posted])
  | unconnected (socket : 0 ≤ env.socket) (refused : env.connectOk = false) :
      Connection codec pid s outs env s.sendEventDelay
        (outs ++ [.opened env.socket] ++ [.closed env.socket] ++ [.posted])
  | unmade (socket : 0 ≤ env.socket) (connects : env.connectOk = true)
      (throws : env.clientMemory = none) :
      Connection codec pid s outs env { s with returned := false }
        (outs ++ [.opened env.socket] ++ [.uncaught])
  | unwatched (uninit : UInt32) (made : env.clientMemory = some uninit) :
      Connection codec pid s outs env { s with created := s.created + 1 }.sendEventDelay
        (outs ++ [.opened env.socket] ++
          deleteMsgClient s.created (MsgClient.start env.socket uninit) ++ [.closed env.socket] ++
          [.posted])
  | watched (uninit : UInt32) (made : env.clientMemory = some uninit) (socket : 0 ≤ env.socket)
      (sent : TaskClient × List TaskClientOut)
      (sends : sent = (s.attached env.socket uninit).sendReqHearbeat codec pid env.send) :
      Connection codec pid s outs env
        { sent.1 with
          s_heartbeat_timer :=
            if sent.1.returned then sent.1.s_heartbeat_timer.restart
            else sent.1.s_heartbeat_timer }
        (outs ++ [.opened env.socket] ++ .connected s.created :: sent.2)

theorem connectServerEventCb_connection (codec : Codec) (pid : Int) (s : TaskClient)
    (env : ReconnectEnv) :
    Connection codec pid s.clearGlobalData.1 s.clearGlobalData.2 env
      (s.connectServerEventCb codec pid env).1 (s.connectServerEventCb codec pid env).2 := by
  rw [connectServerEventCb, connectToServer]
  generalize s.clearGlobalData = clearing
  rcases clearing with ⟨s, outs⟩
  have minus : (-1 : Int) < 0 := by decide
  dsimp only
  by_cases closed : env.socket < 0
  · rw [if_pos closed]
    dsimp only
    rw [if_pos minus]
    exact .unopened closed
  rw [if_neg closed]
  have socket : 0 ≤ env.socket := by omega
  cases connects : env.connectOk with
  | false =>
      rw [if_pos Bool.not_false]
      dsimp only
      rw [if_pos minus]
      exact .unconnected socket connects
  | true =>
      rw [if_neg (by decide)]
      cases made : env.clientMemory with
      | none => exact .unmade socket connects made
      | some uninit =>
          dsimp only
          cases env.watchOk with
          | false =>
              rw [if_pos Bool.not_false]
              dsimp only
              rw [if_pos minus]
              exact .unwatched uninit made
          | true =>
              rw [if_neg (by decide)]
              dsimp only
              rw [if_neg closed]
              exact .watched uninit made socket _ rfl

theorem connectServerEventCb_connecting (codec : Codec) (pid : Int) (s : TaskClient)
    (env : ReconnectEnv) :
    Connecting s env (s.connectServerEventCb codec pid env).1
      (s.connectServerEventCb codec pid env).2 := by
  have fds := clearGlobalData_fds s
  have quiet : Silent [.posted] := ⟨rfl, rfl⟩
  have opened := fds.opens env.socket
  have connection := connectServerEventCb_connection codec pid s env
  generalize s.connectServerEventCb codec pid env = ended at connection ⊢
  rcases ended with ⟨s', outs⟩
  dsimp only at connection ⊢
  cases connection with
  | unopened closed =>
      have spared : ¬ env.Throws := by simp [ReconnectEnv.Throws, closed]
      exact .refused spared ⟨rfl, rfl, rfl⟩ rfl (fds.quiet quiet)
  | unconnected socket refused =>
      have spared : ¬ env.Throws := by simp [ReconnectEnv.Throws, refused]
      exact .undone spared ⟨rfl, rfl, rfl⟩ rfl ((opened.closes env.socket).quiet quiet)
  | unmade socket connects throws =>
      exact .threw ⟨socket, connects, throws⟩ ⟨rfl, rfl, rfl⟩ rfl rfl (opened.quiet ⟨rfl, rfl⟩)
  | unwatched uninit made =>
      have spared : ¬ env.Throws := by simp [ReconnectEnv.Throws, made]
      have deleted := opened.quiet (deleteMsgClient_silent s.created
        (MsgClient.start env.socket uninit))
      exact .undone spared ⟨rfl, rfl, rfl⟩ rfl ((deleted.closes env.socket).quiet quiet)
  | watched uninit made socket sent sends =>
      have spared : ¬ env.Throws := by simp [ReconnectEnv.Throws, made]
      have same := sendReqHearbeat_same codec pid
        (s.clearGlobalData.1.attached env.socket uninit) env.send
      have silent := sendReqHearbeat_silent codec pid
        (s.clearGlobalData.1.attached env.socket uninit) env.send
      rw [← sends] at same silent
      have joined : Silent ([.connected s.created] ++ sent.2) := Fds.quiet ⟨rfl, rfl⟩ silent
      exact .connected spared socket same.s_client_fd same.s_client_io same.s_msg_client
        same.pending (opened.quiet joined)

theorem readable_kept (codec : Codec) (s : TaskClient) (env : ClientReadEnv) :
    Kept s (s.readable codec env).1 ∧ Silent (s.readable codec env).2 := by
  rw [readable.eq_def]
  split
  · rename_i io client w _ current
    split
    · exact ⟨clientReadioCb_kept codec env.accepted env.mallocOk current env.reads,
        clientReadioCb_silent codec env.accepted env.mallocOk client w s env.reads⟩
    · exact ⟨.refl s, ⟨rfl, rfl⟩⟩
  · exact ⟨.refl s, ⟨rfl, rfl⟩⟩
  · exact ⟨.refl s, silent_nil⟩

variable (codec : Codec) (pid : Int)

theorem step_busy {s : TaskClient} (busy : s.returned = false) (e : TaskClientEvent) :
    (machine codec pid).step s e = (s, []) := by
  rw [machine]
  exact if_neg (by rw [busy]; decide)

theorem step_returned {s : TaskClient} (returned : s.returned = true) (e : TaskClientEvent) :
    (machine codec pid).step s e = s.deliver codec pid e := by
  rw [machine]
  exact if_pos returned

theorem next_kept {s : TaskClient} {e : TaskClientEvent} (other : ∀ env, e ≠ .reconnect env) :
    Kept s ((machine codec pid).next s e) ∧ Silent ((machine codec pid).emit s e) := by
  rw [StepMachine.next, StepMachine.emit]
  cases returned : s.returned with
  | false =>
      rw [step_busy codec pid returned]
      exact ⟨.refl s, silent_nil⟩
  | true =>
      rw [step_returned codec pid returned]
      cases e with
      | readable env => exact readable_kept codec s env
      | heartbeatTimer env =>
          exact ⟨(heartbeatTimerCb_same codec pid s env).kept,
            heartbeatTimerCb_silent codec pid s env⟩
      | requestTimer timer =>
          exact ⟨(requestTimerCb_same codec s timer).kept, requestTimerCb_silent codec s timer⟩
      | reconnect env => exact absurd rfl (other env)

end TaskClient

end TaskMonitor
