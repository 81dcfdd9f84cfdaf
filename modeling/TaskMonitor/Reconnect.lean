import TaskMonitor.TaskClientSteps
import TaskMonitor.Library.CjsonText

/-! Reconnect events over the runs of the client library. -/

namespace TaskMonitor

open CText Cjson

namespace TaskClient

theorem recvData_ret (codec : Codec) (s : TaskClient) (client : Nat) (w : ClientWorld LibCb)
    (call : RecvCall) :
    (s.recvData codec client w call).1 = (MsgClient.recvData codec w call []).ret := rfl

/-- The failures that one `clientReadioCb` call meets: errors other than `EINTR`, the end of the
file, and data that cannot be processed. -/
def failures (codec : Codec) (accepted mallocOk : Bool) (client : Nat) (w : ClientWorld LibCb) :
    List ReadResult → Nat
  | [] => 0
  | .interrupted :: reads => failures codec accepted mallocOk client w reads
  | .failed :: reads => failures codec accepted mallocOk client w reads + 1
  | .bytes data :: _ =>
      if data = [] then 1
      else if (MsgClient.recvData codec w ⟨data.take globalBufLen, accepted, mallocOk⟩ []).ret ≠ 0
        then 1
      else 0

theorem clientReadioCb_posts (codec : Codec) (accepted mallocOk : Bool) {client : Nat}
    {w : ClientWorld LibCb} {s : TaskClient} (current : s.s_msg_client = some (client, w))
    (reads : List ReadResult) :
    (clientReadioCb codec accepted mallocOk client w s reads).1.pending =
        s.pending + failures codec accepted mallocOk client w reads ∧
      (clientReadioCb codec accepted mallocOk client w s reads).1.s_msg_client.map Prod.fst =
        some client ∧
      (failures codec accepted mallocOk client w reads ≠ 0 →
        .failed client ∈ (clientReadioCb codec accepted mallocOk client w s reads).2) := by
  have attached : s.s_msg_client.map Prod.fst = some client := by rw [current]; rfl
  -- on the reads: an event that is posted is there already when the loop goes on
  induction reads generalizing s with
  | nil => exact ⟨rfl, attached, fun some_failed => absurd rfl some_failed⟩
  | cons result reads ih =>
      cases result with
      | interrupted => exact ih current attached
      | failed =>
          have posted : s.sendEventDelay.s_msg_client = some (client, w) := current
          rcases ih posted attached with ⟨count, same, _⟩
          rw [clientReadioCb, failures]
          refine ⟨?_, same, fun _ => List.mem_cons_self⟩
          calc
            _ = s.sendEventDelay.pending + failures codec accepted mallocOk client w reads := count
            _ = s.pending + 1 + failures codec accepted mallocOk client w reads := rfl
            _ = s.pending + (failures codec accepted mallocOk client w reads + 1) := by omega
      | bytes data =>
          rw [clientReadioCb, failures]
          by_cases empty : data = []
          · rw [if_pos empty, if_pos empty]
            exact ⟨rfl, attached, fun _ => List.mem_cons_self⟩
          · rw [if_neg empty, if_neg empty]
            have connection :=
              recvData_same codec current ⟨data.take globalBufLen, accepted, mallocOk⟩
            have kept := connection.pending
            have same := connection.address
            rw [← recvData_ret codec s client]
            generalize s.recvData codec client w ⟨data.take globalBufLen, accepted, mallocOk⟩ =
              received at kept same
            rcases received with ⟨ret, s', outs⟩
            dsimp only at kept same ⊢
            by_cases bad : ret ≠ 0
            · rw [if_pos bad, if_pos bad]
              have count : s'.sendEventDelay.pending = s.pending + 1 := congrArg (· + 1) kept
              have logged : .failed client ∈ outs ++ (s'.fail client).2 :=
                List.mem_append_right _ List.mem_cons_self
              exact ⟨count, same.trans attached, fun _ => logged⟩
            · rw [if_neg bad, if_neg bad]
              exact ⟨kept, same.trans attached, fun some_failed => absurd rfl some_failed⟩

theorem connectServerEventCb_pending (codec : Codec) (pid : Int) (s : TaskClient)
    (env : ReconnectEnv) :
    (s.connectServerEventCb codec pid env).1.pending = s.pending ∨
      (s.connectServerEventCb codec pid env).1.pending = s.pending + 1 ∧
        (s.connectServerEventCb codec pid env).1.s_msg_client = none := by
  cases connectServerEventCb_connecting codec pid s env with
  | refused spared cleared posted fds => exact .inr ⟨posted, cleared.s_msg_client⟩
  | undone spared cleared posted fds => exact .inr ⟨posted, cleared.s_msg_client⟩
  | threw throws cleared busy pending fds => exact .inl pending
  | connected spared socket fd io client pending fds => exact .inl pending

def failuresMet (codec : Codec) (s : TaskClient) : TaskClientEvent → Nat
  | .readable env =>
      match s.s_client_io, s.s_msg_client with
      | some io, some (client, w) =>
          if s.returned ∧ io.data = client then
            failures codec env.accepted env.mallocOk client w env.reads
          else 0
      | _, _ => 0
  | _ => 0

variable (codec : Codec) (pid : Int)

theorem failuresMet_busy {s : TaskClient} (busy : s.returned = false) (e : TaskClientEvent) :
    failuresMet codec s e = 0 := by
  cases e with
  | readable env =>
      rw [failuresMet]
      split
      · apply if_neg
        intro both
        rw [busy] at both
        cases both.1
      · rfl
  | heartbeatTimer env => rfl
  | requestTimer timer => rfl
  | reconnect env => rfl

theorem readable_posts {s : TaskClient} (returned : s.returned = true) (env : ClientReadEnv) :
    (s.readable codec env).1.pending = s.pending + failuresMet codec s (.readable env) ∧
      (s.readable codec env).1.s_msg_client.map Prod.fst = s.s_msg_client.map Prod.fst ∧
      (failuresMet codec s (.readable env) ≠ 0 → ∃ client w,
        s.s_msg_client = some (client, w) ∧ .failed client ∈ (s.readable codec env).2) := by
  rw [failuresMet, readable]
  cases watching : s.s_client_io with
  | none => exact ⟨rfl, rfl, fun some_failed => absurd rfl some_failed⟩
  | some io =>
      cases current : s.s_msg_client with
      | none => exact ⟨rfl, by rw [current], fun some_failed => absurd rfl some_failed⟩
      | some entry =>
          rcases entry with ⟨client, w⟩
          dsimp only
          by_cases own : io.data = client
          · rw [if_pos own, if_pos ⟨returned, own⟩]
            rcases clientReadioCb_posts codec env.accepted env.mallocOk current env.reads with
              ⟨count, same, logged⟩
            exact ⟨count, same, fun some_failed => ⟨client, w, rfl, logged some_failed⟩⟩
          · rw [if_neg own, if_neg (fun both => own both.2)]
            exact ⟨rfl, by rw [current], fun some_failed => absurd rfl some_failed⟩

/-- What any event but the delivery of a reconnect does: it posts an event for each failure. -/
theorem failure_step {s : TaskClient} {e : TaskClientEvent} (other : ∀ env, e ≠ .reconnect env) :
    ((machine codec pid).next s e).pending = s.pending + failuresMet codec s e ∧
      ((machine codec pid).next s e).s_msg_client.map Prod.fst = s.s_msg_client.map Prod.fst ∧
      (failuresMet codec s e ≠ 0 → ∃ client w, s.s_msg_client = some (client, w) ∧
        .failed client ∈ (machine codec pid).emit s e) := by
  cases returned : s.returned with
  | false =>
      rw [StepMachine.next, StepMachine.emit, step_busy codec pid returned,
        failuresMet_busy codec returned]
      exact ⟨rfl, rfl, fun some_failed => absurd rfl some_failed⟩
  | true =>
      rw [StepMachine.next, StepMachine.emit, step_returned codec pid returned]
      cases e with
      | heartbeatTimer env =>
          have same := heartbeatTimerCb_same codec pid s env
          exact ⟨same.pending, same.address, fun some_failed => absurd rfl some_failed⟩
      | requestTimer timer =>
          have same := requestTimerCb_same codec s timer
          exact ⟨same.pending, same.address, fun some_failed => absurd rfl some_failed⟩
      | reconnect env => exact absurd rfl (other env)
      | readable env => exact readable_posts codec returned env

/-- A reconnect event is delivered only while one is pending. -/
theorem reconnect_step (s : TaskClient) (env : ReconnectEnv) :
    ((machine codec pid).next s (.reconnect env) = s ∧
        (machine codec pid).emit s (.reconnect env) = []) ∨
      s.pending ≠ 0 ∧
        (((machine codec pid).next s (.reconnect env)).pending = s.pending - 1 ∨
          ((machine codec pid).next s (.reconnect env)).pending = s.pending - 1 + 1 ∧
            ((machine codec pid).next s (.reconnect env)).s_msg_client = none) := by
  cases returned : s.returned with
  | false =>
      rw [StepMachine.next, StepMachine.emit, step_busy codec pid returned]
      exact .inl ⟨rfl, rfl⟩
  | true =>
      rw [StepMachine.next, StepMachine.emit, step_returned codec pid returned, deliver]
      by_cases idle : s.pending = 0
      · rw [if_pos idle]
        exact .inl ⟨rfl, rfl⟩
      · rw [if_neg idle]
        exact .inr ⟨idle, connectServerEventCb_pending codec pid _ env⟩

/-- A delivered reconnect event deletes the client of a connection only after a failure on it. -/
def SparesHealthy (log : List TaskClientOut) (s : TaskClient) (e : TaskClientEvent) : Prop :=
  ∀ env client w, e = .reconnect env → s.s_msg_client = some (client, w) →
    .deleted client ∈ (machine codec pid).emit s e → .failed client ∈ log

/-- At most one reconnect event is pending after a step, and a healthy connection is spared. -/
def SingleReconnect (log : List TaskClientOut) (s : TaskClient) (e : TaskClientEvent) : Prop :=
  ((machine codec pid).next s e).pending ≤ 1 ∧ SparesHealthy codec pid log s e

/-- A step that meets failures meets one, and no reconnect event is pending. -/
def FailsOnce (s : TaskClient) (e : TaskClientEvent) : Prop :=
  failuresMet codec s e ≠ 0 → failuresMet codec s e = 1 ∧ s.pending = 0

def Settled (s : TaskClient) (log : List TaskClientOut) : Prop :=
  s.pending ≤ 1 ∧
    ∀ client w, s.s_msg_client = some (client, w) → s.pending ≠ 0 → .failed client ∈ log

theorem Settled.single_iff {s : TaskClient} {log : List TaskClientOut} (settled : Settled s log)
    (e : TaskClientEvent) :
    SingleReconnect codec pid log s e ↔ FailsOnce codec s e := by
  rcases settled with ⟨atMostOne, logged⟩
  by_cases delivered : ∃ env, e = .reconnect env
  · rcases delivered with ⟨env, rfl⟩
    apply iff_of_true
    · rcases reconnect_step codec pid s env with ⟨same, silent⟩ | ⟨waiting, left⟩
      · constructor
        · rw [same]
          exact atMostOne
        · intro env' client w _ _ gone
          rw [silent] at gone
          cases gone
      · constructor
        · omega
        · intro env' client w _ current _
          exact logged client w current waiting
    · exact fun some_failed => absurd rfl some_failed
  · have other : ∀ env, e ≠ .reconnect env := fun env same => delivered ⟨env, same⟩
    rcases failure_step codec pid other (s := s) with ⟨count, _, _⟩
    have spared : SparesHealthy codec pid log s e := fun env _ _ same => absurd same (other env)
    rw [SingleReconnect, FailsOnce, count]
    constructor
    · intro single some_failed
      have bound := single.1
      omega
    · intro once
      refine ⟨?_, spared⟩
      by_cases none_failed : failuresMet codec s e = 0
      · omega
      · have alone := once none_failed
        omega

theorem Settled.next {s : TaskClient} {log : List TaskClientOut} (settled : Settled s log)
    {e : TaskClientEvent} (single : SingleReconnect codec pid log s e) :
    Settled ((machine codec pid).next s e) (log ++ (machine codec pid).emit s e) := by
  constructor
  · exact single.1
  · intro client w current waiting
    by_cases delivered : ∃ env, e = .reconnect env
    · rcases delivered with ⟨env, rfl⟩
      rcases reconnect_step codec pid s env with ⟨same, silent⟩ | ⟨_, gone | ⟨_, unconnected⟩⟩
      · rw [same] at current waiting
        exact List.mem_append_left _ (settled.2 client w current waiting)
      · have bound := settled.1
        omega
      · rw [unconnected] at current
        cases current
    · have other : ∀ env, e ≠ .reconnect env := fun env same => delivered ⟨env, same⟩
      rcases failure_step codec pid other (s := s) with ⟨count, same, logged⟩
      rw [current] at same
      by_cases none_failed : failuresMet codec s e = 0
      · rw [count, none_failed, Nat.add_zero] at waiting
        rcases Option.map_eq_some_iff.mp same.symm with ⟨⟨client', w'⟩, before, rfl⟩
        exact List.mem_append_left _ (settled.2 client' w' before waiting)
      · rcases logged none_failed with ⟨client', w', before, member⟩
        rw [before] at same
        cases same
        exact List.mem_append_right _ member

theorem instInitCb_settled {start : TaskClient} (idle : start.pending = 0) (init : ReconnectEnv) :
    Settled (start.instInitCb codec pid init).1 [] := by
  rw [instInitCb]
  rcases connectServerEventCb_pending codec pid start init with none_pending | ⟨one, unconnected⟩
  · rw [idle] at none_pending
    exact ⟨by omega, fun _ _ _ waiting => absurd none_pending waiting⟩
  · constructor
    · omega
    · intro client w current
      rw [unconnected] at current
      cases current

instance (s : TaskClient) (e : TaskClientEvent) : Decidable (FailsOnce codec s e) :=
  inferInstanceAs (Decidable (_ → _))

end TaskClient

open TaskClient

/-- In every run of the client library at most one reconnect event is pending and no healthy
connection is torn down exactly when each invocation of the read callback that meets a failure
meets one, with no reconnect event pending. -/
theorem reconnects_once_iff (codec : Codec) (pid : Int) {instOk timerOk : Bool} {random : UInt32}
    {start s : TaskClient} (started : threadStartCb instOk random timerOk = some start)
    (init : ReconnectEnv) (begun : (start.instInitCb codec pid init).1 = s)
    (es : List TaskClientEvent) :
    (s.pending ≤ 1 ∧ ∀ front e back, es = front ++ e :: back →
      SingleReconnect codec pid ((TaskClient.machine codec pid).trace s front)
        ((TaskClient.machine codec pid).run s front) e) ↔
      (TaskClient.machine codec pid).AllSteps (FailsOnce codec) s es := by
  have idle : start.pending = 0 := by
    rw [threadStartCb] at started
    split at started
    · cases started
    split at started
    · cases started
    · obtain rfl := Option.some.inj started
      rfl
  have settled : Settled s [] := by
    rw [← begun]
    exact instInitCb_settled codec pid idle init
  have recorded := (TaskClient.machine codec pid).recording.allSteps_iff
    (fun x e => SingleReconnect codec pid x.2 x.1 e) (s, []) es
  simp only [StepMachine.recording_run, List.nil_append] at recorded
  rw [and_iff_right settled.1, ← recorded,
    ← StepMachine.recording_allSteps _ (FailsOnce codec) s []]
  apply StepMachine.allSteps_congr _ (fun x => Settled x.1 x.2)
  · intro x e held
    exact held.single_iff codec pid e
  · intro x e held single
    exact held.next codec pid single
  · exact settled

def connects : ReconnectEnv :=
  ⟨5, true, some 0, true, ⟨fun _ => true, 0, true, true, [.count 4, .count 4, .count 100]⟩⟩

def startedClient : TaskClient := ⟨-1, none, none, .create 3 5, 5, 0, 0, true⟩

def connectedClient : TaskClient := (startedClient.instInitCb textCodec 40 connects).1

def endOfFile : TaskClientEvent := .readable ⟨[.bytes []], true, true⟩

theorem reconnects_once_iff_single : connectedClient.pending ≤ 1 ∧
    ∀ front e back, [endOfFile, .reconnect connects] = front ++ e :: back →
      SingleReconnect textCodec 40 ((TaskClient.machine textCodec 40).trace connectedClient front)
        ((TaskClient.machine textCodec 40).run connectedClient front) e := by
  have started : threadStartCb true 3 true = some startedClient := rfl
  exact (reconnects_once_iff textCodec 40 started connects rfl _).mpr (by decide +kernel)

/-- The watcher fires twice at the end of the file, as it does within the second that the first
reconnect event waits, and then both events are delivered. -/
def twiceAtEnd : List TaskClientEvent := [endOfFile, endOfFile, .reconnect connects]

theorem healthy_connection_torn_down :
    ¬ ((TaskClient.machine textCodec 40).run connectedClient [endOfFile, endOfFile]).pending ≤ 1 ∧
      ¬ SparesHealthy textCodec 40
        ((TaskClient.machine textCodec 40).trace connectedClient twiceAtEnd)
        ((TaskClient.machine textCodec 40).run connectedClient twiceAtEnd)
        (.reconnect connects) := by
  constructor
  · decide +kernel
  · intro spares
    have current : (((TaskClient.machine textCodec 40).run connectedClient
        twiceAtEnd).s_msg_client.map Prod.fst) = some 1 := by decide +kernel
    rcases Option.map_eq_some_iff.mp current with ⟨⟨client, w⟩, second, rfl⟩
    have deleted : ((TaskClient.machine textCodec 40).emit
        ((TaskClient.machine textCodec 40).run connectedClient twiceAtEnd)
        (.reconnect connects)).any (fun
          | .deleted client => client = 1
          | _ => false) = true := by decide +kernel
    have unfailed : ((TaskClient.machine textCodec 40).trace connectedClient twiceAtEnd).all (fun
        | .failed client => client ≠ 1
        | _ => true) = true := by decide +kernel
    rcases List.any_eq_true.mp deleted with ⟨o, member, about⟩
    cases o with
    | deleted client =>
        obtain rfl := of_decide_eq_true about
        have failed := spares connects 1 w rfl second member
        exact of_decide_eq_true (List.all_eq_true.mp unfailed _ failed) rfl
    | _ => cases about

end TaskMonitor
