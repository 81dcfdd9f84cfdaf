import TaskMonitor.Reconnect
import Mathlib.Data.List.Perm.Basic

/-! The connection of the client library over its runs: all of it or none, and no descriptor
left open. -/

namespace TaskMonitor

open CText Cjson
open scoped List

namespace TaskClient

def Connected (s : TaskClient) : Prop :=
  0 ≤ s.s_client_fd ∧ ∃ client, s.s_client_io = some ⟨s.s_client_fd, client⟩ ∧
    s.s_msg_client.map connectionOf = some (client, s.s_client_fd)

def Unconnected (s : TaskClient) : Prop :=
  s.s_client_fd = -1 ∧ s.s_client_io = none ∧ s.s_msg_client = none

def current (s : TaskClient) : List Int := if 0 ≤ s.s_client_fd then [s.s_client_fd] else []

/-- All is set for one connection or nothing is, and each descriptor that `socket` has returned
is the one in use or has been closed once. -/
structure Joined (s : TaskClient) (log : List TaskClientOut) : Prop where
  whole : Connected s ∨ Unconnected s
  closed : (openedFds log).Perm (s.current ++ closedFds log)

/-- Without a connection a reconnect event is pending. -/
structure Whole (s : TaskClient) (log : List TaskClientOut) : Prop extends Joined s log where
  retries : Unconnected s → s.pending ≠ 0

/-- A reconnect event is delivered only while the descriptor is not 0, and no exception leaves
its callback. -/
def Releases (s : TaskClient) (e : TaskClientEvent) : Prop :=
  ∀ env, e = .reconnect env → s.returned = true → s.pending ≠ 0 →
    s.s_client_fd ≠ 0 ∧ ¬ env.Throws

theorem Unconnected.current {s : TaskClient} (unconnected : Unconnected s) :
    s.current = [] := by
  rw [TaskClient.current, unconnected.1]
  rfl

theorem Joined.balance {s : TaskClient} {log : List TaskClientOut} (joined : Joined s log) :
    (openedFds log).length = s.current.length + (closedFds log).length := by
  rw [joined.closed.length_eq, List.length_append]

theorem Kept.connected {s s' : TaskClient} (kept : Kept s s') (connected : Connected s) :
    Connected s' := by
  rw [Connected, kept.s_client_fd, kept.s_client_io, kept.s_msg_client]
  exact connected

theorem Kept.unconnected_iff {s s' : TaskClient} (kept : Kept s s') :
    Unconnected s' ↔ Unconnected s := by
  have clients : s'.s_msg_client = none ↔ s.s_msg_client = none := by
    rw [← Option.map_eq_none_iff (f := connectionOf), kept.s_msg_client, Option.map_eq_none_iff]
  rw [Unconnected, Unconnected, kept.s_client_fd, kept.s_client_io, clients]

theorem Kept.whole {s s' : TaskClient} (kept : Kept s s') {log outs : List TaskClientOut}
    (silent : Silent outs) (held : Whole s log) : Whole s' (log ++ outs) := by
  have fds : Fds (log ++ outs) (openedFds log) (closedFds log) := Fds.quiet ⟨rfl, rfl⟩ silent
  refine ⟨⟨?_, ?_⟩, ?_⟩
  · rcases held.whole with connected | unconnected
    · exact .inl (kept.connected connected)
    · exact .inr (kept.unconnected_iff.mpr unconnected)
  · rw [fds.opened, fds.closed, current, kept.s_client_fd]
    exact held.closed
  · intro unconnected
    have waiting := held.retries (kept.unconnected_iff.mp unconnected)
    have grown := kept.pending
    omega

theorem released_eq_current {s : TaskClient} (nonzero : s.s_client_fd ≠ 0) :
    s.released = s.current := by
  rw [released, current]
  apply if_congr _ rfl rfl
  omega

theorem Cleared.unconnected {s s' : TaskClient} (cleared : Cleared s s')
    {log : List TaskClientOut} (joined : Joined s log) (nonzero : s.s_client_fd ≠ 0) :
    Unconnected s' := by
  refine ⟨?_, cleared.s_client_io, cleared.s_msg_client⟩
  rw [cleared.s_client_fd]
  rcases joined.whole with connected | unconnected
  · have bound := connected.1
    exact if_pos (by omega)
  · rw [unconnected.1]
    decide

/-- While nothing is set and nothing is closed twice, a callback that is not left by an exception
and does not start at descriptor 0 keeps it so. -/
theorem Connecting.whole {s s' : TaskClient} {env : ReconnectEnv} {log outs : List TaskClientOut}
    (connecting : Connecting s env s' outs) (joined : Joined s log) (nonzero : s.s_client_fd ≠ 0)
    (spared : ¬ env.Throws) : Whole s' (log ++ outs) := by
  have before : (openedFds log).Perm (s.released ++ closedFds log) := by
    rw [released_eq_current nonzero]
    exact joined.closed
  cases connecting with
  | refused _ cleared posted fds =>
      have unconnected := cleared.unconnected joined nonzero
      have after := (⟨rfl, rfl⟩ : Fds log _ _).append fds
      refine ⟨⟨.inr unconnected, ?_⟩, fun _ => by omega⟩
      rw [after.opened, after.closed, unconnected.current, List.append_nil, List.nil_append]
      exact before.trans List.perm_append_comm
  -- the descriptor that was just opened is closed again
  | undone _ cleared posted fds =>
      have unconnected := cleared.unconnected joined nonzero
      have after := (⟨rfl, rfl⟩ : Fds log _ _).append fds
      refine ⟨⟨.inr unconnected, ?_⟩, fun _ => by omega⟩
      rw [after.opened, after.closed, unconnected.current, List.nil_append]
      calc
        openedFds log ++ [env.socket] ~ s.released ++ closedFds log ++ [env.socket] :=
          before.append_right _
        _ ~ closedFds log ++ s.released ++ [env.socket] :=
          List.perm_append_comm.append_right _
        _ = closedFds log ++ (s.released ++ [env.socket]) := List.append_assoc ..
  | threw throws cleared busy pending fds => exact absurd throws spared
  -- the descriptor that was in use is closed, and the new one takes its place
  | connected _ socket fd io client pending fds =>
      have connected : Connected s' := by
        rw [Connected, fd, io, client]
        exact ⟨socket, s.created, rfl, rfl⟩
      have used : s'.current = [env.socket] := by
        rw [current, fd]
        exact if_pos socket
      have after := (⟨rfl, rfl⟩ : Fds log _ _).append fds
      refine ⟨⟨.inl connected, ?_⟩, ?_⟩
      · rw [after.opened, after.closed, used]
        calc
          openedFds log ++ [env.socket] ~ [env.socket] ++ openedFds log := List.perm_append_comm
          _ ~ [env.socket] ++ (s.released ++ closedFds log) := before.append_left _
          _ ~ [env.socket] ++ (closedFds log ++ s.released) :=
            List.perm_append_comm.append_left _
      · intro unconnected
        have negative := unconnected.1
        rw [fd] at negative
        omega

theorem Cleared.nonzero {s s' : TaskClient} (cleared : Cleared s s') {log : List TaskClientOut}
    (joined : Joined s' log) : s.s_client_fd ≠ 0 := by
  intro zero
  have left := cleared.s_client_fd
  rw [zero] at left
  rcases joined.whole with ⟨_, client, watched, _⟩ | unconnected
  · rw [cleared.s_client_io] at watched
    cases watched
  · rw [unconnected.1] at left
    cases left

/-- Where descriptor 0 is given up or an exception leaves the callback, a descriptor is lost. -/
theorem Connecting.releases {s s' : TaskClient} {env : ReconnectEnv}
    {log outs : List TaskClientOut} (connecting : Connecting s env s' outs)
    (joined : Joined s log) (joined' : Joined s' (log ++ outs)) :
    s.s_client_fd ≠ 0 ∧ ¬ env.Throws := by
  have before := joined.balance
  have after := joined'.balance
  cases connecting with
  | refused spared cleared posted fds => exact ⟨cleared.nonzero joined', spared⟩
  | undone spared cleared posted fds => exact ⟨cleared.nonzero joined', spared⟩
  | threw throws cleared busy pending fds =>
      have nonzero := cleared.nonzero joined'
      have unconnected := cleared.unconnected joined nonzero
      have joint := (⟨rfl, rfl⟩ : Fds log _ _).append fds
      rw [joint.opened, joint.closed, unconnected.current, released_eq_current nonzero,
        List.length_append, List.length_append, List.length_singleton, List.length_nil] at after
      omega
  | connected spared socket fd io client pending fds =>
      refine ⟨?_, spared⟩
      intro zero
      have used : s.current = [0] := by rw [current, zero]; rfl
      have used' : s'.current = [env.socket] := by rw [current, fd, if_pos socket]
      have lost : s.released = [] := by rw [released, zero]; rfl
      have joint := (⟨rfl, rfl⟩ : Fds log _ _).append fds
      rw [joint.opened, joint.closed, used', lost, List.length_append, List.append_nil] at after
      rw [used] at before
      simp only [List.length_singleton] at before after
      omega

variable (codec : Codec) (pid : Int)

theorem Whole.next_iff {s : TaskClient} {log : List TaskClientOut} (held : Whole s log)
    (e : TaskClientEvent) :
    Whole ((machine codec pid).next s e) (log ++ (machine codec pid).emit s e) ↔
      Releases s e := by
  by_cases delivered : ∃ env, e = .reconnect env
  · rcases delivered with ⟨env, rfl⟩
    rw [StepMachine.next, StepMachine.emit]
    cases returned : s.returned with
    | false =>
        rw [step_busy codec pid returned, List.append_nil]
        apply iff_of_true held
        intro _ _ free
        rw [returned] at free
        cases free
    | true =>
        rw [step_returned codec pid returned, deliver]
        by_cases idle : s.pending = 0
        · rw [if_pos idle, List.append_nil]
          exact iff_of_true held fun _ _ _ waiting => absurd idle waiting
        · rw [if_neg idle]
          have joined : Joined { s with pending := s.pending - 1 } log :=
            ⟨held.whole, held.closed⟩
          have connecting := connectServerEventCb_connecting codec pid
            { s with pending := s.pending - 1 } env
          constructor
          · intro whole env' same _ _
            cases same
            exact connecting.releases joined whole.toJoined
          · intro releases
            rcases releases env rfl returned idle with ⟨nonzero, spared⟩
            exact connecting.whole joined nonzero spared
  · have other : ∀ env, e ≠ .reconnect env := fun env same => delivered ⟨env, same⟩
    rcases next_kept codec pid other (s := s) with ⟨kept, silent⟩
    exact iff_of_true (kept.whole silent held) fun env same => absurd same (other env)

theorem instInitCb_whole {instOk timerOk : Bool} {random : UInt32} {start : TaskClient}
    (started : threadStartCb instOk random timerOk = some start) (init : ReconnectEnv)
    (returned : (start.instInitCb codec pid init).1.returned = true) :
    Whole (start.instInitCb codec pid init).1 (start.instInitCb codec pid init).2 := by
  have unconnected : Unconnected start := by
    rw [threadStartCb] at started
    split at started
    · cases started
    split at started
    · cases started
    · obtain rfl := Option.some.inj started
      exact ⟨rfl, rfl, rfl⟩
  have joined : Joined start [] := by
    refine ⟨.inr unconnected, ?_⟩
    rw [unconnected.current]
    exact .refl []
  have nonzero : start.s_client_fd ≠ 0 := by
    rw [unconnected.1]
    decide
  have connecting := connectServerEventCb_connecting codec pid start init
  apply connecting.whole joined nonzero
  intro throws
  cases connecting with
  | refused spared => exact spared throws
  | undone spared => exact spared throws
  | threw _ _ busy =>
      rw [instInitCb, busy] at returned
      cases returned
  | connected spared => exact spared throws

end TaskClient

open TaskClient

/-- In every state of every run after `instInitCb` has returned, the connection is whole and no
descriptor is lost, exactly when each delivered reconnect event finds a descriptor other than 0
and ends without an exception. -/
theorem never_half_connected_iff (codec : Codec) (pid : Int) {instOk timerOk : Bool}
    {random : UInt32} {start s : TaskClient} {begun : List TaskClientOut}
    (started : threadStartCb instOk random timerOk = some start) (init : ReconnectEnv)
    (initialised : start.instInitCb codec pid init = (s, begun)) (returned : s.returned = true)
    (es : List TaskClientEvent) :
    (∀ front back, es = front ++ back →
      Whole ((TaskClient.machine codec pid).run s front)
        (begun ++ (TaskClient.machine codec pid).trace s front)) ↔
      (TaskClient.machine codec pid).AllSteps Releases s es := by
  have initially : Whole s begun := by
    have whole := instInitCb_whole codec pid started init
    rw [initialised] at whole
    exact whole returned
  have recorded := (TaskClient.machine codec pid).recording.prefixes_iff
    (fun x => Whole x.1 x.2) (s, begun) es
  simp only [StepMachine.recording_run] at recorded
  rw [recorded, and_iff_right initially, ← StepMachine.recording_allSteps _ Releases s begun]
  apply StepMachine.allSteps_congr _ (fun x => Whole x.1 x.2)
  · intro x e held
    exact held.next_iff codec pid e
  · intro x e held whole
    exact whole
  · exact initially

/-- The connection on descriptor 5 is replaced, and whole all along. -/
theorem never_half_connected_iff_five :
    (TaskClient.machine textCodec 40).AllSteps Releases connectedClient
        [endOfFile, .reconnect connects] ∧
      ∀ front back, [endOfFile, .reconnect connects] = front ++ back →
        Whole ((TaskClient.machine textCodec 40).run connectedClient front)
          ((startedClient.instInitCb textCodec 40 connects).2 ++
            (TaskClient.machine textCodec 40).trace connectedClient front) := by
  have started : threadStartCb true 3 true = some startedClient := rfl
  have releases : (TaskClient.machine textCodec 40).AllSteps Releases connectedClient
      [endOfFile, .reconnect connects] := by
    refine ⟨?_, ?_, trivial⟩
    · intro env same
      cases same
    · intro env same _ _
      cases same
      exact ⟨by decide +kernel, by decide⟩
  constructor
  · exact releases
  · exact (never_half_connected_iff textCodec 40 started connects rfl (by decide +kernel) _).mpr
      releases

def connectsZero : ReconnectEnv := { connects with socket := 0 }

def unreachable : ReconnectEnv := { connects with connectOk := false }

def zeroClient : TaskClient := (startedClient.instInitCb textCodec 40 connectsZero).1

/-- After the connection on descriptor 0 has ended, the descriptor is still set and open, and there
is neither a watcher nor a client. -/
theorem zero_stays_open :
    zeroClient.returned = true ∧
      ¬ ∀ front back, [endOfFile, .reconnect unreachable] = front ++ back →
        Whole ((TaskClient.machine textCodec 40).run zeroClient front)
          ((startedClient.instInitCb textCodec 40 connectsZero).2 ++
            (TaskClient.machine textCodec 40).trace zeroClient front) := by
  constructor
  · decide +kernel
  · intro every
    have whole := (every [endOfFile, .reconnect unreachable] [] (List.append_nil _).symm).whole
    have descriptor : ((TaskClient.machine textCodec 40).run zeroClient
        [endOfFile, .reconnect unreachable]).s_client_fd = 0 := by decide +kernel
    have unwatched : ((TaskClient.machine textCodec 40).run zeroClient
        [endOfFile, .reconnect unreachable]).s_client_io = none := by decide +kernel
    rcases whole with ⟨_, client, watched, _⟩ | ⟨minus, _⟩
    · rw [unwatched] at watched
      cases watched
    · rw [descriptor] at minus
      cases minus

end TaskMonitor
