import TaskMonitor.Connections
import TaskMonitor.Supervision

/-! What the heartbeat callback reads, over the daemon's runs. -/

namespace TaskMonitor

open CText Cjson

def Wired (address : Nat) (c : TaskObjClient) : Prop :=
  ∀ server, c.msgServer = some server →
    server.mEventCb .heartbeat = some .processHeartbeat ∧
      server.mUserData .heartbeat = some address

namespace TaskObjClient

theorem stopTaskClient_wired (c : TaskObjClient) (address : Nat) :
    Wired address c.stopTaskClient.client := by
  intro server present
  cases present

theorem fresh_wired (self : Nat) (fd pid : Int) (uninit : EventType → Option Nat) :
    Wired self (fresh self fd pid uninit) := by
  intro server present
  obtain rfl := Option.some.inj present
  exact ⟨rfl, rfl⟩

theorem recvData_wired {σ : Type*} (codec : Codec) (call : CallbackSem CoreCb Nat σ)
    (env : MsgServer.RecvEnv) {c : TaskObjClient} {address : Nat} (wired : Wired address c)
    (w : σ) : Wired address (c.recvData codec call env w).client := by
  rw [recvData]
  split
  · exact wired
  · rename_i server present
    dsimp only
    split
    · exact stopTaskClient_wired _ address
    · intro server' present'
      obtain rfl := Option.some.inj present'
      exact wired server present

theorem taskReadIoCb_wired {σ : Type*} (codec : Codec) (call : CallbackSem CoreCb Nat σ)
    (env : List UInt8 → MsgServer.RecvEnv) {c : TaskObjClient} {address : Nat}
    (wired : Wired address c) (w : σ) (reads : List ReadResult) :
    Wired address (c.taskReadIoCb codec call env w reads).client := by
  induction reads with
  | nil => exact wired
  | cons result reads ih =>
      cases result with
      | interrupted => exact ih
      | failed => exact c.stopTaskClient_wired address
      | bytes data =>
          rw [taskReadIoCb]
          split
          · exact c.stopTaskClient_wired address
          · exact recvData_wired codec call _ wired w

end TaskObjClient

namespace Daemon

def AllWired (d : Daemon) : Prop := ∀ a c, d.findClient a = some c → Wired a c

theorem AllWired.setClient {d : Daemon} (wired : AllWired d) {a : Nat} {c : TaskObjClient}
    (own : Wired a c) : AllWired (d.setClient a c) := by
  intro b c' found
  by_cases same : b = a
  · subst same
    rw [findClient_setClient_self] at found
    obtain rfl := Option.some.inj found
    exact own
  · rw [findClient_setClient_ne d same] at found
    exact wired b c' found

theorem AllWired.deleteClient {d : Daemon} (wired : AllWired d) (a : Nat) :
    AllWired (d.deleteClient a).1 := by
  intro b c found
  by_cases same : b = a
  · subst same
    rw [findClient_deleteClient_self] at found
    cases found
  · rw [findClient_deleteClient_ne d same] at found
    exact wired b c found

theorem AllWired.stopTaskClient {d : Daemon} (wired : AllWired d) (i : Nat) (t : TaskObj) :
    AllWired (d.stopTaskClient i t).1 := by
  rw [Daemon.stopTaskClient]
  cases t.mClient with
  | none => exact wired
  | some a => exact wired.deleteClient a

theorem AllWired.newClient {d : Daemon} (wired : AllWired d) (fd pid : Int) (env : ConnectEnv) :
    AllWired (d.newClient fd pid env).2.1 := by
  by_cases throws : env.Throws
  · rw [(newClient_of_throws throws d fd pid).2]
    exact wired
  · rcases ConnectEnv.not_throws throws with ⟨watched, uninit, served⟩
    rw [(newClient_of_works watched served d fd pid).2]
    have same : AllWired { d with created := d.created + 1 } := wired
    exact same.setClient (TaskObjClient.fresh_wired d.created fd pid uninit)

theorem AllWired.startTaskClient {d : Daemon} (wired : AllWired d) (i : Nat) (t : TaskObj)
    (fd : Int) (env : ConnectEnv) : AllWired (d.startTaskClient i t fd env).1 := by
  have stopped := wired.stopTaskClient i t
  rw [Daemon.startTaskClient]
  generalize d.stopTaskClient i t = stopping at stopped
  rcases stopping with ⟨d', gone⟩
  have made := stopped.newClient fd t.mPid env
  dsimp only at made ⊢
  generalize d'.newClient fd t.mPid env = new at made
  rcases new with ⟨address, d'', outs⟩
  cases address with
  | none => exact made
  | some address => exact made

theorem AllWired.recvClientConnect {d : Daemon} (wired : AllWired d) (pid fd : Int)
    (env : ConnectEnv) : AllWired (d.recvClientConnect pid fd env).1 := by
  rw [Daemon.recvClientConnect]
  split
  · split
    · exact wired
    · exact wired.startTaskClient _ _ fd env
  · have made := wired.newClient fd pid env
    generalize d.newClient fd pid env = new at made
    rcases new with ⟨address, d', outs⟩
    cases address with
    | none => exact made
    | some address => exact made

theorem AllWired.clearClients {d : Daemon} (wired : AllWired d) (addresses : List Nat) :
    AllWired (d.clearClients addresses).1 := by
  intro a c found
  exact wired a c (clearClients_shrinks found)

theorem AllWired.readable {d : Daemon} (wired : AllWired d) (codec : Codec) (address : Nat)
    (env : ReadEnv) : AllWired (d.readable codec address env).1 := by
  rw [Daemon.readable]
  cases found : d.findClient address with
  | none => exact wired
  | some c =>
      dsimp only
      apply AllWired.setClient
      · exact wired
      · exact TaskObjClient.taskReadIoCb_wired codec _ _ (wired address c found) _ _

theorem AllWired.next {d : Daemon} (wired : AllWired d) (codec : Codec) (e : DaemonEvent) :
    AllWired ((machine codec).next d e) := by
  cases alive : d.alive with
  | false =>
      rw [(step_dead codec alive e).1]
      exact wired
  | true =>
      simp only [StepMachine.next, step_alive codec alive]
      cases e with
      | tick dt fork => exact wired
      | connect pid fd env => exact wired.recvClientConnect pid fd env
      | readable address env => exact wired.readable codec address env
      | clearClients => exact wired.clearClients d.cliList

theorem AllWired.heartbeat_user_data {d : Daemon} (wired : AllWired d) {codec : Codec}
    {e : DaemonEvent} {address : Nat} {inv : Invocation CoreCb Nat} {wire : List UInt8}
    (served : .served address (some inv) wire ∈ (machine codec).emit d e)
    (heartbeat : inv.type = .heartbeat) :
    ∃ env c, e = .readable address env ∧ d.findClient address = some c ∧
      inv.cb = .processHeartbeat ∧ inv.usrData = some address := by
  rcases served_readable served with ⟨env, c, server, w, same, found, present, reported, _⟩
  rcases reported with ⟨registered, userData, _⟩
  rcases wired address c found server present with ⟨callback, own⟩
  rw [heartbeat] at registered userData
  rw [callback] at registered
  have called : inv.cb = .processHeartbeat := (Option.some.inj registered).symm
  exact ⟨env, c, same, found, called, userData.trans own⟩

/-- The heartbeat callback reads the task of the process `p`, or an error says that there is
none. `taskAt` says which addresses hold a task. -/
def OwnTaskRead (taskAt : Nat → Option Nat) (d : Daemon) (p : Int) (env : CbEnv)
    (inv : Invocation CoreCb Nat) : Prop :=
  (∀ (i : Nat) (t : TaskObj), d.registry.taskList[i]? = some t → t.mStatus ≠ .U → t.mPid = p →
    inv.usrData.bind taskAt = some i ∧
      (processHeartbeat env inv.usrData ⟨d.registry, []⟩).reply =
        some ⟨UInt32.ofInt t.mPid, t.getTaskHeartbeat⟩) ∧
  ((∀ t ∈ d.registry.taskList, t.mPid ≠ p) →
    inv.ret ≠ .succ ∧ inv.usrData.bind taskAt = none) ∧
  ∀ a, inv.usrData = some a → (taskAt a).isSome = true

end Daemon

open Daemon

/-- In every run of a daemon that starts without connections, every heartbeat request is
processed with the address of the connection object. No task is there, whichever process the
connection belongs to. -/
theorem heartbeat_reads_connection (codec : Codec) {d : Daemon} (unconnected : d.clients = [])
    (es : List DaemonEvent) {e : DaemonEvent} {address : Nat} {inv : Invocation CoreCb Nat}
    {wire : List UInt8}
    (served : .served address (some inv) wire ∈
      (Daemon.machine codec).emit ((Daemon.machine codec).run d es) e)
    (heartbeat : inv.type = .heartbeat) {taskAt : Nat → Option Nat}
    (apart : ∀ a c, ((Daemon.machine codec).run d es).findClient a = some c → taskAt a = none) :
    ∃ env, e = .readable address env ∧ inv.cb = .processHeartbeat ∧ inv.usrData = some address ∧
      ∀ p, ¬ OwnTaskRead taskAt ((Daemon.machine codec).run d es) p env.callback inv := by
  have initially : AllWired d := by
    intro a c found
    rw [findClient, unconnected] at found
    cases found
  have wired : AllWired ((Daemon.machine codec).run d es) :=
    (Daemon.machine codec).run_invariant_all AllWired
      (fun _ e held => held.next codec e) es initially
  rcases wired.heartbeat_user_data served heartbeat with ⟨env, c, same, found, called, own⟩
  refine ⟨env, same, called, own, ?_⟩
  intro p own_task
  have typed := own_task.2.2 address own
  rw [apart address c found] at typed
  cases typed

def zeroEnv : CbEnv := ⟨true, 41, fun _ => ⟨0, 0⟩⟩

def zeroRead : DaemonEvent :=
  .readable 0 ⟨[.bytes heartbeatFrame], true, true, fun _ => true,
    [.count 4, .count 4, .count 100], zeroEnv⟩

def placed (a : Nat) : Option Nat := if a = 100 then some 0 else none

def connectedDaemon : Daemon := (Daemon.machine textCodec).run startedDaemon [connected]

def heartbeatOut : DaemonOut → Bool
  | .served address (some inv) _ => address = 0 && inv.type = .heartbeat
  | _ => false

theorem heartbeatOut_served {o : DaemonOut} (about : heartbeatOut o = true) :
    ∃ inv wire, o = .served 0 (some inv) wire ∧ inv.type = .heartbeat := by
  cases o with
  | served address invoked wire =>
      cases invoked with
      | none => cases about
      | some inv =>
          rcases Bool.and_eq_true_iff.mp about with ⟨here, heartbeat⟩
          obtain rfl := of_decide_eq_true here
          exact ⟨inv, wire, rfl, of_decide_eq_true heartbeat⟩
  | _ => cases about

theorem zero_served : ∃ inv wire,
    .served 0 (some inv) wire ∈ (Daemon.machine textCodec).emit connectedDaemon zeroRead ∧
      inv.type = .heartbeat := by
  have served : ((Daemon.machine textCodec).emit connectedDaemon zeroRead).any heartbeatOut =
      true := by decide +kernel
  rcases List.any_eq_true.mp served with ⟨o, member, about⟩
  rcases heartbeatOut_served about with ⟨inv, wire, rfl, heartbeat⟩
  exact ⟨inv, wire, member, heartbeat⟩

theorem heartbeat_reads_connection_zero : ∃ inv wire,
    .served 0 (some inv) wire ∈ (Daemon.machine textCodec).emit connectedDaemon zeroRead ∧
      inv.usrData = some 0 ∧ ∀ p, ¬ OwnTaskRead placed connectedDaemon p zeroEnv inv := by
  rcases zero_served with ⟨inv, wire, member, heartbeat⟩
  have apart : ∀ a c, connectedDaemon.findClient a = some c → placed a = none := by
    intro a c found
    by_cases same : a = 100
    · have absent : (connectedDaemon.findClient 100).isSome = false := by decide +kernel
      rw [← same, found] at absent
      cases absent
    · exact if_neg same
  rcases heartbeat_reads_connection textCodec rfl [connected] member heartbeat apart with
    ⟨env, same, _, own, never⟩
  cases same
  exact ⟨inv, wire, member, own, never⟩

/-- The process of the running task 40 connects and sends a heartbeat. The reply has neither the
task's pid nor its heartbeat. -/
theorem zeros_are_replied : ¬ ∀ inv wire,
    .served 0 (some inv) wire ∈ (Daemon.machine textCodec).emit connectedDaemon zeroRead →
      inv.type = .heartbeat → OwnTaskRead placed connectedDaemon 40 zeroEnv inv := by
  intro claimed
  rcases zero_served with ⟨inv, wire, member, heartbeat⟩
  have own := (claimed inv wire member heartbeat).1
  have running : ∃ t, connectedDaemon.registry.taskList[0]? = some t ∧ t.mStatus ≠ .U ∧
      t.mPid = 40 := ⟨_, rfl, by decide +kernel, by decide +kernel⟩
  rcases running with ⟨t, found, started, pid⟩
  have replied := Option.some.inj (own 0 t found started pid).2
  have zero : UInt32.ofInt t.mPid = 0 := (congrArg HeartbeatRsp.pid replied).symm
  rw [pid] at zero
  revert zero
  decide

end TaskMonitor
