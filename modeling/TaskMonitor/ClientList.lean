import TaskMonitor.Connections
import TaskMonitor.Library.CjsonText

/-! The list of clients that are no tasks, and its clean-up. -/

namespace TaskMonitor

namespace TaskObjClient

theorem stopTaskClient_noDelete (c : TaskObjClient) (a : Nat) :
    .deleteClient a ∉ c.stopTaskClient.calls := by
  simp [stopTaskClient, List.mem_ite_nil_right]

theorem create_noDelete (self : Nat) (fd pid : Int) (env : ConnectEnv) (a : Nat) :
    .deleteClient a ∉ (create self fd pid env).2 := by
  have opening := stopTaskClient_noDelete { env.memory with mClientFd := fd, mPid := pid } a
  rw [create, startTaskClient]
  dsimp only
  split
  · simpa using opening
  · cases env.serverMemory with
    | none => simpa using opening
    | some uninit => simpa using opening

theorem taskReadIoCb_noDelete {σ : Type*} (codec : Cjson.Codec) (call : CallbackSem CoreCb Nat σ)
    (env : List UInt8 → MsgServer.RecvEnv) (c : TaskObjClient) (w : σ) (reads : List ReadResult)
    (a : Nat) : .deleteClient a ∉ (c.taskReadIoCb codec call env w reads).calls := by
  induction reads with
  | nil => exact List.not_mem_nil
  | cons result reads ih =>
      cases result with
      | interrupted => exact ih
      | failed => exact c.stopTaskClient_noDelete a
      | bytes data =>
          rw [taskReadIoCb]
          split
          · exact c.stopTaskClient_noDelete a
          · rw [recvData]
            split
            · exact List.not_mem_nil
            · dsimp only
              split
              · exact stopTaskClient_noDelete _ a
              · exact List.not_mem_nil

end TaskObjClient

namespace Daemon

def deletions (outs : List DaemonOut) : List Nat :=
  outs.filterMap fun
    | .client _ (.deleteClient address) => some address
    | _ => none

theorem deletions_append (front back : List DaemonOut) :
    deletions (front ++ back) = deletions front ++ deletions back := List.filterMap_append

theorem deletions_client {address : Nat} {calls : List SysCall}
    (kept : ∀ a, .deleteClient a ∉ calls) :
    deletions (calls.map (.client address)) = [] := by
  apply List.filterMap_eq_nil_iff.mpr
  intro o member
  rcases List.mem_map.mp member with ⟨call, inside, rfl⟩
  cases call with
  | deleteClient a => exact absurd inside (kept a)
  | _ => rfl

def Available (d : Daemon) (address : Nat) : Prop :=
  ∃ c, d.findClient address = some c ∧ c.isClientAvailable ≠ 0

def Stranger (d : Daemon) (e : DaemonEvent) : Prop :=
  ∀ pid fd env, e = .connect pid fd env → ∀ t ∈ d.registry.taskList, t.mPid ≠ pid

/-- A clean-up looks at no object that is gone, and keeps the available ones in the list and
no others. -/
def Tidy (codec : Cjson.Codec) (d : Daemon) (e : DaemonEvent) : Prop :=
  d.alive = true → e = .clearClients →
    (∀ a, .dangling a ∉ (machine codec).emit d e) ∧
      ∀ a, a ∈ ((machine codec).next d e).cliList ↔
        a ∈ d.cliList ∧ Available ((machine codec).next d e) a

def NoneStopped (d : Daemon) (e : DaemonEvent) : Prop :=
  d.alive = true → e = .clearClients → ∀ a ∈ d.cliList, Available d a

theorem clearClients_available {d : Daemon} {addresses : List Nat}
    (available : ∀ a ∈ addresses, Available d a) : d.clearClients addresses = (d, []) := by
  induction addresses with
  | nil => rfl
  | cons a later ih =>
      rcases available a List.mem_cons_self with ⟨c, found, serving⟩
      have rest := ih fun b member => available b (List.mem_cons_of_mem a member)
      rw [clearClients]
      simp [found, serving, rest]

theorem clearClients_cliList (d : Daemon) (addresses : List Nat) :
    (d.clearClients addresses).1.cliList = d.cliList := by
  induction addresses generalizing d with
  | nil => rfl
  | cons a later ih =>
      rw [clearClients]
      refine (ih _).trans ?_
      split
      · rfl
      · split
        · rw [deleteClient]
          cases d.findClient a <;> rfl
        · rfl

theorem next_clearClients (codec : Cjson.Codec) {d : Daemon} (alive : d.alive = true) :
    (machine codec).next d .clearClients = (d.clearClients d.cliList).1 ∧
      (machine codec).emit d .clearClients = (d.clearClients d.cliList).2 := by
  simp [StepMachine.next, StepMachine.emit, step_alive codec alive]

theorem tidy_iff (codec : Cjson.Codec) (d : Daemon) (e : DaemonEvent) :
    Tidy codec d e ↔ NoneStopped d e := by
  constructor
  · intro tidy alive clears a member
    subst clears
    rcases next_clearClients codec alive with ⟨after, _⟩
    rcases tidy alive rfl with ⟨_, listed⟩
    rw [after] at listed
    have still : a ∈ (d.clearClients d.cliList).1.cliList := by
      rw [clearClients_cliList]
      exact member
    rcases ((listed a).mp still).2 with ⟨c, found, serving⟩
    exact ⟨c, clearClients_shrinks found, serving⟩
  · intro serving alive clears
    subst clears
    rcases next_clearClients codec alive with ⟨after, outs⟩
    have available := serving alive rfl
    rw [after, outs, clearClients_available available]
    constructor
    · exact fun _ => List.not_mem_nil
    · intro a
      exact (and_iff_left_of_imp (available a)).symm

theorem newClient_deletions (d : Daemon) (fd pid : Int) (env : ConnectEnv) :
    deletions (d.newClient fd pid env).2.2 = [] := by
  have kept := TaskObjClient.create_noDelete d.created fd pid env
  rw [newClient]
  generalize TaskObjClient.create d.created fd pid env = made at kept
  rcases made with ⟨made, calls⟩
  cases made with
  | none => exact deletions_client kept
  | some c => exact deletions_client kept

theorem readable_deletions (codec : Cjson.Codec) (d : Daemon) (address : Nat) (env : ReadEnv) :
    deletions (d.readable codec address env).2 = [] := by
  rw [readable]
  cases d.findClient address with
  | none => rfl
  | some c =>
      have kept := c.taskReadIoCb_noDelete codec (coreCallbacks env.callback) env.recvEnv
        ⟨d.registry, []⟩ env.reads
      dsimp only
      rw [deletions_append, deletions_client kept, List.append_nil]
      apply List.filterMap_eq_nil_iff.mpr
      intro o member
      rcases List.mem_append.mp member with call | served
      · rcases List.mem_map.mp call with ⟨_, _, rfl⟩
        rfl
      · rcases List.mem_map.mp served with ⟨_, _, rfl⟩
        rfl

theorem emit_deletions (codec : Cjson.Codec) {d : Daemon} {e : DaemonEvent}
    (stranger : Stranger d e) (serving : NoneStopped d e) :
    deletions ((machine codec).emit d e) = [] := by
  cases alive : d.alive with
  | false =>
      rw [(step_dead codec alive e).2]
      rfl
  | true =>
      cases e with
      | clearClients =>
          rw [(next_clearClients codec alive).2, clearClients_available (serving alive rfl)]
          rfl
      | tick dt fork =>
          simp only [StepMachine.emit, step_alive codec alive]
          apply List.filterMap_eq_nil_iff.mpr
          intro o member
          rcases tick_own o member with ⟨i, rfl | ⟨call, rfl⟩⟩ <;> rfl
      | readable address env =>
          simp only [StepMachine.emit, step_alive codec alive]
          exact readable_deletions codec d address env
      | connect pid fd env =>
          simp only [StepMachine.emit, step_alive codec alive]
          have unknown : d.registry.taskList.findIdx? (fun obj => obj.getTaskPid = pid) = none := by
            apply List.findIdx?_eq_none_iff.mpr
            intro t member
            exact decide_eq_false (stranger pid fd env rfl t member)
          have kept := d.newClient_deletions fd pid env
          rw [recvClientConnect, unknown]
          generalize d.newClient fd pid env = made at kept
          rcases made with ⟨address, d', outs⟩
          cases address with
          | none =>
              rw [deletions_append]
              exact List.append_eq_nil_iff.mpr ⟨kept, rfl⟩
          | some address => exact kept

theorem trace_deletions (codec : Cjson.Codec) {d : Daemon} {es : List DaemonEvent}
    (strangers : (machine codec).AllSteps Stranger d es)
    (serving : (machine codec).AllSteps NoneStopped d es) :
    deletions ((machine codec).trace d es) = [] := by
  induction es generalizing d with
  | nil => rfl
  | cons e es ih =>
      rw [StepMachine.trace_cons, deletions_append, emit_deletions codec strangers.1 serving.1]
      exact ih strangers.2 serving.2

end Daemon

open Daemon

/-- While only processes that are no tasks connect: no client is deleted twice and every
clean-up is tidy exactly when every clean-up finds nothing to do. It does not take the clients
that it deletes out of the list. -/
theorem clean_up_iff {codec : Cjson.Codec} {d : Daemon} {es : List DaemonEvent}
    (strangers : (Daemon.machine codec).AllSteps Stranger d es) :
    (deletions ((Daemon.machine codec).trace d es)).Nodup ∧
        (Daemon.machine codec).AllSteps (Tidy codec) d es ↔
      (Daemon.machine codec).AllSteps NoneStopped d es := by
  have same := (Daemon.machine codec).allSteps_congr (fun _ => True)
    (fun d e _ => tidy_iff codec d e) (fun _ _ _ _ => trivial) trivial (s := d) es
  rw [same]
  apply and_iff_right_of_imp
  intro serving
  rw [trace_deletions codec strangers serving]
  exact List.nodup_nil

def emptyDaemon : Daemon := ⟨⟨[], 0⟩, [], [], 0, true⟩

def strangerConnects : DaemonEvent := .connect 99 7 ⟨⟨0, 0, none, none, 0⟩, 0, some fun _ => none⟩

def clientCloses : DaemonEvent :=
  .readable 0 ⟨[.bytes []], true, true, fun _ => true, [], ⟨true, -1, fun _ => ⟨0, 0⟩⟩⟩

theorem clean_up_iff_serving :
    (deletions ((Daemon.machine Cjson.textCodec).trace emptyDaemon
          [strangerConnects, .clearClients, clientCloses])).Nodup ∧
        (Daemon.machine Cjson.textCodec).AllSteps (Tidy Cjson.textCodec) emptyDaemon
          [strangerConnects, .clearClients, clientCloses] ↔
      (Daemon.machine Cjson.textCodec).AllSteps NoneStopped emptyDaemon
        [strangerConnects, .clearClients, clientCloses] := by
  apply clean_up_iff
  refine ⟨?_, ?_, ?_, trivial⟩
  · intro pid fd env _ t member
    cases member
  · intro pid fd env same
    cases same
  · intro pid fd env same
    cases same

/-- A client connects and closes. The second clean-up looks at the object that the first one
has deleted. -/
theorem second_clean_up_dangles :
    (Daemon.machine Cjson.textCodec).AllSteps Stranger emptyDaemon
        [strangerConnects, clientCloses, .clearClients, .clearClients] ∧
      .dangling 0 ∈ (Daemon.machine Cjson.textCodec).emit
        ((Daemon.machine Cjson.textCodec).run emptyDaemon
          [strangerConnects, clientCloses, .clearClients]) .clearClients ∧
      ¬ (Daemon.machine Cjson.textCodec).AllSteps (Tidy Cjson.textCodec) emptyDaemon
        [strangerConnects, clientCloses, .clearClients, .clearClients] := by
  have dangles : .dangling 0 ∈ (Daemon.machine Cjson.textCodec).emit
      ((Daemon.machine Cjson.textCodec).run emptyDaemon
        [strangerConnects, clientCloses, .clearClients]) .clearClients :=
    List.mem_singleton.mpr rfl
  refine ⟨⟨?_, ?_, ?_, ?_, trivial⟩, dangles, ?_⟩
  · intro pid fd env _ t member
    cases member
  · intro pid fd env same
    cases same
  · intro pid fd env same
    cases same
  · intro pid fd env same
    cases same
  · intro tidy
    exact (tidy.2.2.2.1 rfl rfl).1 0 dangles

end TaskMonitor
