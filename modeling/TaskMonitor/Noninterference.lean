import TaskMonitor.Supervisor
import TaskMonitor.Supervision
import TaskMonitor.Connections
import TaskMonitor.TargetResolution
import TaskMonitor.DialogueSteps

/-! Connections on which no action is asked for: what they do to the tasks of the daemon. -/

namespace TaskMonitor

open CText Cjson StepMachine

/-- A frame that hands no action over, whatever else it is. -/
def Harmless (codec : Codec) (f : Frame) : Prop :=
  ∀ root type, codec.parse f.payload = some root → numberItem root (text "type") = some type →
    truncate type = EventType.taskAction.code →
      MsgServer.decodeTaskActionReq (getObjectItem root (text "data")) = none

def HarmlessStream (codec : Codec) (bytes : List UInt8) : Prop :=
  ∃ fs, (∀ f ∈ fs, Harmless codec f) ∧ bytes <+: frameCode.encodeAll fs

namespace MsgServer

variable {κ υ σ : Type*}

def Uncommanded (invoked : Option (Invocation κ υ)) : Prop :=
  ∀ inv ∈ invoked, inv.type ≠ .taskAction

theorem uncommanded_none : Uncommanded (none : Option (Invocation κ υ)) := by
  intro inv invoked
  cases invoked

theorem uncommanded_unparsed :
    ∀ p ∈ (none : Option (ServerResult κ υ σ)), Uncommanded p.invoked := by
  intro p parsed
  cases parsed

theorem processReq_type {type usrType : EventType} {decode : Option Json → Option (Req type)}
    {encode : Option (Rsp type) → Option Json} {codec : Codec} {call : CallbackSem κ υ σ}
    {alloc : AllocSite → Bool} {srv : MsgServer κ υ} {data : Option Json} {w : σ} :
    ∀ inv ∈ (processReq type usrType decode encode codec call alloc srv data w).invoked,
      inv.type = type := by
  intro inv invoked
  cases registered : srv.mEventCb type with
  | some cb =>
      rw [processReq_invoked codec call alloc w registered] at invoked
      rcases Option.map_eq_some_iff.mp invoked with ⟨req, _, rfl⟩
      rfl
  | none =>
      rw [processReq, registered] at invoked
      cases decoded : decode data <;> simp [decoded] at invoked

theorem dispatch_uncommanded {codec : Codec} {call : CallbackSem κ υ σ} {alloc : AllocSite → Bool}
    {srv : MsgServer κ υ} {type : Int} {value : Option Json} {w : σ}
    (harmless : type = EventType.taskAction.code → decodeTaskActionReq value = none) :
    Uncommanded (dispatch codec call alloc srv type value w).invoked := by
  intro inv invoked
  rw [dispatch] at invoked
  split at invoked
  · rw [processReq_type inv invoked]
    decide
  split at invoked
  · rw [processReq_type inv invoked]
    decide
  split at invoked
  · rw [processReq_type inv invoked]
    decide
  split at invoked
  · rename_i action
    rw [processTaskActionReq, processReq_of_undecoded (harmless action)] at invoked
    cases invoked
  · cases invoked

theorem parseServerData_uncommanded {codec : Codec} {f : Frame} (harmless : Harmless codec f)
    (call : CallbackSem κ υ σ) (alloc : AllocSite → Bool) (outcomes : List WriteOutcome)
    (srv : MsgServer κ υ) (reqId : UInt32) (w : σ) :
    Uncommanded (parseServerData codec call alloc outcomes srv reqId f.payload w).invoked := by
  rw [parseServerData]
  cases parsed : codec.parse f.payload with
  | none => exact uncommanded_none
  | some root =>
      dsimp only
      cases typed : numberItem root (text "type") with
      | none => exact uncommanded_none
      | some type =>
          have quiet : Uncommanded (dispatch codec call alloc srv (truncate type)
              (getObjectItem root (text "data")) w).invoked :=
            dispatch_uncommanded (harmless root type parsed typed)
          dsimp only
          split <;> exact quiet

variable {codec : Codec} {later : List UInt8}

/-- What is read of a harmless stream leaves a harmless stream, unless the connection is given up,
and invokes no action. -/
theorem recvData_harmless (call : CallbackSem κ υ σ) (env : RecvEnv) (srv : MsgServer κ υ) (w : σ)
    (some_read : env.call.data ≠ [])
    (stream : HarmlessStream codec (srv.mRb.bytes ++ (env.call.data ++ later))) :
    let r := recvData codec call env srv w
    (r.ret = 0 → HarmlessStream codec (r.rb.bytes ++ later)) ∧
      ∀ p ∈ r.parsed, Uncommanded p.invoked := by
  intro r
  cases accepted : env.call.accepted with
  | false =>
      have refused : r = ⟨-1, srv.mRb, none, none⟩ := by
        simp [r, recvData, TaskMonitor.recvData, RingBuf.writeData, accepted]
      have failed : (-1 : Int) ≠ 0 := by decide
      rw [refused]
      exact ⟨fun ret => absurd ret failed, uncommanded_unparsed⟩
  | true =>
      rcases stream with ⟨fs, harmless, ahead, whole⟩
      have pieces : srv.mRb.bytes ++ (env.call.data ++ (later ++ ahead)) =
          frameCode.encodeAll fs := by
        rw [← whole]
        simp only [List.append_assoc]
      have remains {fs : List Frame} (rb : RingBuf) (harmless : ∀ f ∈ fs, Harmless codec f)
          (stream : rb.bytes ++ (later ++ ahead) = frameCode.encodeAll fs) :
          HarmlessStream codec (rb.bytes ++ later) := by
        rw [← List.append_assoc] at stream
        exact ⟨fs, harmless, ahead, stream⟩
      have reading : Reads (parsePackage codec call env srv w) fs (later ++ ahead) r :=
        recvData_pieces (parsePackage codec call env srv w) pieces accepted some_read
      clear_value r
      cases reading with
      | more rb stream =>
          exact ⟨fun _ => remains rb harmless stream, uncommanded_unparsed⟩
      | taken f rest rb first stream =>
          subst first
          have own := harmless f List.mem_cons_self
          refine ⟨fun _ => remains rb (fun f' member => harmless f' (.tail f member)) stream, ?_⟩
          intro p parsed
          obtain rfl := Option.some.inj parsed
          exact parseServerData_uncommanded own call env.alloc env.outcomes srv f.package.reqId w

end MsgServer

namespace TaskObjClient

def arriving : List ReadResult → List UInt8
  | .interrupted :: reads => arriving reads
  | .bytes data :: _ => data.take bufLen
  | _ => []

/-- The connection has a server only if what that server still gets is a harmless stream. -/
def Awaits (codec : Codec) (c : TaskObjClient) (bytes : List UInt8) : Prop :=
  ∀ server, c.msgServer = some server → HarmlessStream codec (server.mRb.bytes ++ bytes)

variable {σ : Type*} {codec : Codec} {later : List UInt8}

theorem awaits_unserved {c : TaskObjClient} (unserved : c.msgServer = none)
    (bytes : List UInt8) : c.Awaits codec bytes := by
  intro server present
  rw [unserved] at present
  cases present

theorem recvData_awaits (call : CallbackSem CoreCb Nat σ) (env : MsgServer.RecvEnv)
    {c : TaskObjClient} (w : σ) (some_read : env.call.data ≠ [])
    (awaits : c.Awaits codec (env.call.data ++ later)) :
    (c.recvData codec call env w).client.Awaits codec later ∧
      ∀ p ∈ (c.recvData codec call env w).parsed, MsgServer.Uncommanded p.invoked := by
  rw [recvData]
  cases present : c.msgServer with
  | none => exact ⟨awaits_unserved present later, MsgServer.uncommanded_unparsed⟩
  | some server =>
      rcases MsgServer.recvData_harmless call env server w some_read (awaits server present) with
        ⟨stream, quiet⟩
      dsimp only
      split
      · exact ⟨awaits_unserved rfl later, quiet⟩
      · rename_i open_still
        refine ⟨?_, quiet⟩
        intro server' same
        obtain rfl := Option.some.inj same
        exact stream (not_not.mp open_still)

theorem taskReadIoCb_awaits (call : CallbackSem CoreCb Nat σ)
    {env : List UInt8 → MsgServer.RecvEnv} (hands : ∀ data, (env data).call.data = data)
    {c : TaskObjClient} (w : σ) {reads : List ReadResult}
    (awaits : c.Awaits codec (arriving reads ++ later)) :
    (c.taskReadIoCb codec call env w reads).client.Awaits codec later ∧
      ∀ p ∈ (c.taskReadIoCb codec call env w reads).parsed, MsgServer.Uncommanded p.invoked := by
  induction reads with
  | nil => exact ⟨awaits, MsgServer.uncommanded_unparsed⟩
  | cons result reads ih =>
      cases result with
      | interrupted => exact ih awaits
      | failed => exact ⟨awaits_unserved rfl later, MsgServer.uncommanded_unparsed⟩
      | bytes data =>
          rw [taskReadIoCb]
          split
          · exact ⟨awaits_unserved rfl later, MsgServer.uncommanded_unparsed⟩
          · rename_i nonempty
            have some_read : data.take bufLen ≠ [] := by
              simpa [List.take_eq_nil_iff, bufLen] using nonempty
            apply recvData_awaits call _ w
            · rw [hands]
              exact some_read
            · rw [hands]
              exact awaits

end TaskObjClient

namespace Daemon

/-- The connection objects afterwards: those from before, perhaps fewer, and a new one. -/
structure Grows (d d' : Daemon) : Prop where
  created : d.created ≤ d'.created
  clients : ∀ a c, d'.findClient a = some c → d.findClient a = some c ∨
    (a = d.created ∧ a < d'.created ∧ ∃ fd pid uninit, c = .fresh a fd pid uninit)

theorem Grows.of_shrinks {d d' : Daemon} (created : d'.created = d.created)
    (clients : ∀ a c, d'.findClient a = some c → d.findClient a = some c) : Grows d d' :=
  ⟨Nat.le_of_eq created.symm, fun a c found => .inl (clients a c found)⟩

theorem Grows.after_shrinks {d d' d'' : Daemon} (created : d'.created = d.created)
    (clients : ∀ a c, d'.findClient a = some c → d.findClient a = some c) (grows : Grows d' d'') :
    Grows d d'' := by
  refine ⟨created ▸ grows.created, ?_⟩
  intro a c found
  rw [← created]
  exact (grows.clients a c found).imp_left (clients a c)

theorem deleteClient_created (d : Daemon) (address : Nat) :
    (d.deleteClient address).1.created = d.created := by
  rw [deleteClient]
  cases d.findClient address <;> rfl

theorem deleteClient_shrinks {d : Daemon} {address a : Nat} {c : TaskObjClient}
    (found : (d.deleteClient address).1.findClient a = some c) : d.findClient a = some c := by
  by_cases same : a = address
  · rw [same, findClient_deleteClient_self] at found
    cases found
  · rwa [findClient_deleteClient_ne d same] at found

theorem clearClients_created (d : Daemon) (addresses : List Nat) :
    (d.clearClients addresses).1.created = d.created := by
  induction addresses generalizing d with
  | nil => rfl
  | cons address later ih =>
      rw [clearClients]
      cases d.findClient address with
      | none => exact ih d
      | some c =>
          dsimp only
          split
          · exact (ih _).trans (d.deleteClient_created address)
          · exact ih d

theorem newClient_grows (d : Daemon) (fd pid : Int) (env : ConnectEnv) :
    Grows d (d.newClient fd pid env).2.1 := by
  by_cases throws : env.Throws
  · rw [(newClient_of_throws throws d fd pid).2]
    exact ⟨Nat.le_succ _, fun a c found => .inl found⟩
  · rcases ConnectEnv.not_throws throws with ⟨watched, uninit, served⟩
    rw [(newClient_of_works watched served d fd pid).2]
    refine ⟨Nat.le_succ _, ?_⟩
    intro a c found
    by_cases new : a = d.created
    · rw [new, findClient_setClient_self] at found
      obtain rfl := Option.some.inj found
      exact .inr ⟨new, new ▸ Nat.lt_succ_self _, fd, pid, uninit, by rw [new]⟩
    · rw [findClient_setClient_ne _ new] at found
      exact .inl found

theorem startTaskClient_grows (d : Daemon) (i : Nat) (t : TaskObj) (fd : Int) (env : ConnectEnv) :
    Grows d (d.startTaskClient i t fd env).1 := by
  have created := (d.stopTaskClient_taskList i t).2
  have shrinks : ∀ a c, (d.stopTaskClient i t).1.findClient a = some c →
      d.findClient a = some c := by
    intro a c found
    rw [stopTaskClient] at found
    cases attached : t.mClient with
    | none =>
        rw [attached] at found
        exact found
    | some address =>
        rw [attached] at found
        exact deleteClient_shrinks found
  rw [startTaskClient]
  generalize d.stopTaskClient i t = stopped at created shrinks
  rcases stopped with ⟨d', gone⟩
  have grows := d'.newClient_grows fd t.mPid env
  dsimp only at created shrinks ⊢
  generalize d'.newClient fd t.mPid env = made at grows
  rcases made with ⟨address, d'', outs⟩
  cases address with
  | none => exact .after_shrinks created shrinks ⟨grows.created, grows.clients⟩
  | some address => exact .after_shrinks created shrinks ⟨grows.created, grows.clients⟩

theorem recvClientConnect_grows (d : Daemon) (pid fd : Int) (env : ConnectEnv) :
    Grows d (d.recvClientConnect pid fd env).1 := by
  rw [recvClientConnect]
  split
  · split
    · exact .of_shrinks rfl fun _ _ found => found
    · exact d.startTaskClient_grows _ _ fd env
  · have grows := d.newClient_grows fd pid env
    generalize d.newClient fd pid env = made at grows
    rcases made with ⟨address, d', outs⟩
    cases address with
    | none => exact ⟨grows.created, grows.clients⟩
    | some address => exact ⟨grows.created, grows.clients⟩

def arrives (a : Nat) (d : Daemon) : DaemonEvent → List UInt8
  | .readable address env =>
      if address = a ∧ (d.findClient a).isSome then TaskObjClient.arriving env.reads else []
  | _ => []

def bytesRead (codec : Codec) (d : Daemon) (es : List DaemonEvent) (a : Nat) : List UInt8 :=
  ((machine codec).looking (arrives a)).trace d es

theorem bytesRead_elsewhere {codec : Codec} {d : Daemon} {es : List DaemonEvent} {a : Nat}
    (elsewhere : ∀ address env, .readable address env ∈ es → address ≠ a) :
    bytesRead codec d es a = [] := by
  induction es generalizing d with
  | nil => rfl
  | cons e es ih =>
      have silent : arrives a d e = [] := by
        cases e with
        | readable address env =>
            have other := elsewhere address env List.mem_cons_self
            rw [arrives, if_neg fun both => other both.1]
        | _ => rfl
      have later := ih (d := (machine codec).next d e) fun address env member =>
        elsewhere address env (List.mem_cons_of_mem e member)
      exact congrArg₂ (· ++ ·) silent later

/-- What the connections still get, if they have a server, and what those to come get. -/
structure Awaiting (codec : Codec) (d : Daemon) (bytes : Nat → List UInt8) : Prop where
  unborn : ∀ a, d.created ≤ a → d.findClient a = none
  coming : ∀ a, d.created ≤ a → HarmlessStream codec (bytes a)
  present : ∀ a c, d.findClient a = some c → c.Awaits codec (bytes a)

variable {codec : Codec} {d d' : Daemon} {bytes : Nat → List UInt8}

theorem Awaiting.grows (awaiting : Awaiting codec d bytes) (grows : Grows d d') :
    Awaiting codec d' bytes := by
  refine ⟨?_, fun a later => awaiting.coming a (Nat.le_trans grows.created later), ?_⟩
  · intro a later
    by_contra there
    rcases Option.ne_none_iff_exists'.mp there with ⟨c, found⟩
    rcases grows.clients a c found with old | ⟨_, early, _⟩
    · rw [awaiting.unborn a (Nat.le_trans grows.created later)] at old
      cases old
    · exact absurd early (Nat.not_lt.mpr later)
  · intro a c found
    rcases grows.clients a c found with old | ⟨new, _, fd, pid, uninit, rfl⟩
    · exact awaiting.present a c old
    · intro server same
      obtain rfl := Option.some.inj same
      exact awaiting.coming a (Nat.le_of_eq new.symm)

theorem command_of_uncommanded {env : CbEnv} {invoked : Option (Invocation CoreCb Nat)}
    (quiet : MsgServer.Uncommanded invoked) (address : Nat) (wire : List UInt8) :
    command? env (.served address invoked wire) = none := by
  cases invoked with
  | none => rfl
  | some inv =>
      rcases inv with ⟨cb, type, req, usrData, ret⟩
      cases type with
      | taskAction => exact absurd rfl (quiet _ rfl)
      | _ => cases cb <;> rfl

theorem readable_uncommanded {address : Nat} {env : ReadEnv} {c : TaskObjClient}
    (found : d.findClient address = some c)
    (quiet : ∀ p ∈ (c.taskReadIoCb codec (coreCallbacks env.callback) env.recvEnv ⟨d.registry, []⟩
      env.reads).parsed, MsgServer.Uncommanded p.invoked) :
    (d.readable codec address env).2.filterMap (command? env.callback) = [] := by
  rw [Daemon.readable, found]
  dsimp only
  generalize c.taskReadIoCb codec (coreCallbacks env.callback) env.recvEnv ⟨d.registry, []⟩
    env.reads = r at quiet
  have tasks (calls : List (Nat × SysCall)) :
      (calls.map fun call => DaemonOut.task call.1 call.2).filterMap (command? env.callback) =
        [] := by
    rw [List.filterMap_map]
    exact List.filterMap_eq_nil_iff.mpr fun _ _ => rfl
  rw [List.filterMap_append, List.filterMap_append, tasks,
    command_ofClients (map_client_ofClients address r.calls)]
  cases parsed : r.parsed with
  | none => rfl
  | some p =>
      have unheard : command? env.callback (.served address p.invoked p.wire) = none :=
        command_of_uncommanded (quiet p parsed) address p.wire
      simp [unheard]

theorem arrives_elsewhere {a address : Nat} {env : ReadEnv}
    (other : ¬ (address = a ∧ (d.findClient a).isSome)) :
    arrives a d (.readable address env) ++ bytes a = bytes a := by
  rw [arrives, if_neg other]
  rfl

theorem Awaiting.setClient {address : Nat} {c c' : TaskObjClient} {bytes' : Nat → List UInt8}
    (awaiting : Awaiting codec d bytes) (found : d.findClient address = some c)
    (elsewhere : ∀ a, a ≠ address → bytes a = bytes' a) (later : c'.Awaits codec (bytes' address)) :
    Awaiting codec (d.setClient address c') bytes' := by
  have inside {a : Nat} (beyond : d.created ≤ a) : a ≠ address := by
    rintro rfl
    rw [awaiting.unborn a beyond] at found
    cases found
  constructor
  · intro a beyond
    exact (findClient_setClient_ne d (inside beyond) c').trans (awaiting.unborn a beyond)
  · intro a beyond
    exact elsewhere a (inside beyond) ▸ awaiting.coming a beyond
  · intro a c'' found'
    by_cases here : a = address
    · rw [here, findClient_setClient_self] at found'
      obtain rfl := Option.some.inj found'
      exact here ▸ later
    · rw [findClient_setClient_ne d here] at found'
      exact elsewhere a here ▸ awaiting.present a c'' found'

theorem Awaiting.readable {address : Nat} {env : ReadEnv}
    (awaiting : Awaiting codec d fun a => arrives a d (.readable address env) ++ bytes a) :
    Awaiting codec (d.readable codec address env).1 bytes ∧
      (d.readable codec address env).2.filterMap (command? env.callback) = [] := by
  cases found : d.findClient address with
  | none =>
      have still : (fun a => arrives a d (.readable address env) ++ bytes a) = bytes := by
        funext a
        apply arrives_elsewhere
        rintro ⟨rfl, there⟩
        rw [found] at there
        cases there
      rw [still] at awaiting
      rw [Daemon.readable, found]
      exact ⟨awaiting, rfl⟩
  | some c =>
      have own : arrives address d (.readable address env) = TaskObjClient.arriving env.reads := by
        rw [arrives, if_pos ⟨rfl, by rw [found]; rfl⟩]
      have awaits := awaiting.present address c found
      rw [own] at awaits
      have hands : ∀ data, (env.recvEnv data).call.data = data := fun _ => rfl
      rcases TaskObjClient.taskReadIoCb_awaits (coreCallbacks env.callback) hands ⟨d.registry, []⟩
        awaits with ⟨later, quiet⟩
      have elsewhere : ∀ a, a ≠ address →
          arrives a d (.readable address env) ++ bytes a = bytes a :=
        fun a other => arrives_elsewhere fun both => other both.1.symm
      have moved := awaiting.setClient found elsewhere later
      refine ⟨?_, readable_uncommanded found quiet⟩
      rw [Daemon.readable, found]
      exact ⟨moved.unborn, moved.coming, moved.present⟩

def tick? : DaemonEvent → Option SupervisorEvent
  | .tick dt fork => some (.tick dt fork)
  | _ => none

def isTick (e : DaemonEvent) : Bool := (tick? e).isSome

theorem Awaiting.next (alive : d.alive = true) {e : DaemonEvent}
    (awaiting : Awaiting codec d fun a => arrives a d e ++ bytes a) :
    Awaiting codec ((machine codec).next d e) bytes ∧ drives codec d e = (tick? e).toList := by
  have step := step_alive codec alive e
  cases e with
  | tick dt fork =>
      have ticked : drives codec d (.tick dt fork) = [.tick dt fork] := by
        rw [drives, alive]
        rfl
      rw [StepMachine.next, step]
      exact ⟨awaiting.grows (.of_shrinks rfl fun _ _ found => found), ticked⟩
  | connect pid fd env =>
      rw [StepMachine.next, step]
      exact ⟨awaiting.grows (d.recvClientConnect_grows pid fd env), rfl⟩
  | readable address env =>
      rw [StepMachine.next, step]
      simp only [drives, StepMachine.emit, step]
      exact awaiting.readable
  | clearClients =>
      rw [StepMachine.next, step]
      exact ⟨awaiting.grows (.of_shrinks (d.clearClients_created d.cliList)
        fun _ _ found => clearClients_shrinks found), rfl⟩

theorem alive_of_run {es : List DaemonEvent} (survives : ((machine codec).run d es).alive = true) :
    d.alive = true := by
  induction es generalizing d with
  | nil => exact survives
  | cons e es ih =>
      by_contra dead
      have later := ih survives
      rw [(step_dead codec (by simpa using dead) e).1] at later
      exact dead later

/-- On harmless connections it is time alone that drives the tasks. -/
theorem driving_harmless {es : List DaemonEvent}
    (survives : ((machine codec).run d es).alive = true)
    (awaiting : Awaiting codec d (bytesRead codec d es)) :
    driving codec d es = es.filterMap tick? := by
  induction es generalizing d with
  | nil => rfl
  | cons e es ih =>
      have parts : bytesRead codec d (e :: es) = fun a =>
          arrives a d e ++ bytesRead codec ((machine codec).next d e) es a := rfl
      rw [parts] at awaiting
      rcases awaiting.next (alive_of_run survives) with ⟨later, now⟩
      have split : driving codec d (e :: es) =
          drives codec d e ++ driving codec ((machine codec).next d e) es := rfl
      rw [split, now, ih survives later, List.filterMap_cons]
      cases tick? e <;> rfl

theorem driving_ticks (alive : d.alive = true) (es : List DaemonEvent) :
    driving codec d (es.filter isTick) = es.filterMap tick? := by
  induction es generalizing d with
  | nil => rfl
  | cons e es ih =>
      rw [List.filter_cons, List.filterMap_cons]
      cases e with
      | tick dt fork =>
          have step := step_alive codec alive (.tick dt fork)
          have split : driving codec d (.tick dt fork :: es.filter isTick) =
              drives codec d (.tick dt fork) ++
                driving codec ((machine codec).next d (.tick dt fork)) (es.filter isTick) := rfl
          have still : ((machine codec).next d (.tick dt fork)).alive = true := by
            rw [StepMachine.next, step]
            exact alive
          have now : drives codec d (.tick dt fork) = [.tick dt fork] := by
            rw [drives, alive]
            rfl
          change driving codec d (.tick dt fork :: es.filter isTick) = .tick dt fork :: _
          rw [split, now, ih still]
          rfl
      | _ => exact ih alive

/-- Harmless connections change nothing of the tasks with their timers, and call nothing. -/
theorem tasks_undisturbed {es : List DaemonEvent} (unconnected : d.clients = [])
    (survives : ((machine codec).run d es).alive = true)
    (harmless : ∀ a, HarmlessStream codec (bytesRead codec d es a)) :
    ((machine codec).run d es).registry.detached =
        ((machine codec).run d (es.filter isTick)).registry.detached ∧
      taskCalls codec d es = taskCalls codec d (es.filter isTick) := by
  have nobody (a : Nat) : d.findClient a = none := by
    rw [findClient, unconnected]
    rfl
  have awaiting : Awaiting codec d (bytesRead codec d es) := by
    refine ⟨fun a _ => nobody a, fun a _ => harmless a, ?_⟩
    intro a c found
    rw [nobody a] at found
    cases found
  have driven := driving_harmless survives awaiting
  have ticked : driving codec d (es.filter isTick) = es.filterMap tick? :=
    driving_ticks (alive_of_run survives) es
  rw [← ticked] at driven
  rcases daemon_supervises codec d es with ⟨state, calls⟩
  rcases daemon_supervises codec d (es.filter isTick) with ⟨state', calls'⟩
  rw [state, calls, state', calls', driven]
  exact ⟨rfl, rfl⟩

def heartbeatRequest : Frame :=
  MsgServer.replyFrame 1 (textCodec.print acceptedRequest) (by decide +kernel)

theorem heartbeatRequest_harmless : Harmless textCodec heartbeatRequest := by
  intro root type parsed typed action
  have read : textCodec.parse heartbeatRequest.payload = some acceptedRequest := rfl
  have number : numberItem acceptedRequest (text "type") = some 0 := rfl
  obtain rfl := Option.some.inj (read.symm.trans parsed)
  obtain rfl := Option.some.inj (number.symm.trans typed)
  cases action

theorem heartbeatRun_harmless (a : Nat) :
    HarmlessStream textCodec (bytesRead textCodec startedDaemon heartbeatRun a) := by
  by_cases own : a = 0
  · subst own
    have sent : bytesRead textCodec startedDaemon heartbeatRun 0 =
        frameCode.encodeAll [heartbeatRequest] := by decide +kernel
    refine ⟨[heartbeatRequest], ?_, [], ?_⟩
    · intro f member
      obtain rfl := List.mem_singleton.mp member
      exact heartbeatRequest_harmless
    · rw [List.append_nil]
      exact sent
  · have elsewhere : ∀ address env, .readable address env ∈ heartbeatRun → address ≠ a := by
      intro address env member
      simp only [heartbeatRun, connected, heartbeatRead, List.mem_cons, List.not_mem_nil,
        reduceCtorEq, DaemonEvent.readable.injEq, false_or, or_false] at member
      exact member.1 ▸ fun same => own same.symm
    rw [bytesRead_elsewhere elsewhere]
    exact ⟨[], fun _ member => absurd member List.not_mem_nil, [], rfl⟩

/-- Connections on which no action is asked for do not interfere: whatever connects, is read in
whatever pieces, heartbeats and queries included, and goes, the tasks with their timers and the
calls on processes are those of the run in which nobody has connected. -/
theorem connections_noninterfere (codec : Codec) {d : Daemon} (unconnected : d.clients = [])
    {es : List DaemonEvent} (survives : ((machine codec).run d es).alive = true)
    (harmless : ∀ a, HarmlessStream codec (bytesRead codec d es a)) :
    ((machine codec).run d es).registry.detached =
        ((machine codec).run d (es.filter isTick)).registry.detached ∧
      taskCalls codec d es = taskCalls codec d (es.filter isTick) :=
  tasks_undisturbed unconnected survives harmless

/-- A task's process connects and sends a heartbeat in time: the task times out as it would have
without. -/
theorem connections_noninterfere_heartbeat :
    heartbeatRun.filter isTick = [.tick 2 fun _ => 41, .tick 2 fun _ => 41] ∧
      taskCalls textCodec startedDaemon heartbeatRun =
        taskCalls textCodec startedDaemon (heartbeatRun.filter isTick) := by
  have undisturbed := connections_noninterfere textCodec (d := startedDaemon) rfl
    (by decide +kernel) heartbeatRun_harmless
  exact ⟨rfl, undisturbed.2⟩

end Daemon

end TaskMonitor
