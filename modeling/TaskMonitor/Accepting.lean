import TaskMonitor.TaskMain
import TaskMonitor.Connections

/-! `serverReadIoCb` of `TaskServer.cpp`: connections come from the listening socket. What becomes
of their descriptors over whole runs of the daemon. -/

namespace TaskMonitor

open CText Cjson

/-- What `serverReadIoCb` meets: the results of `accept` and of `getsockopt`, the peer's pid, and
what is met where the connection object is made. -/
structure AcceptEnv where
  accept : Int
  getsockopt : Int
  pid : Int
  connect : ConnectEnv

inductive ListenEvent where
  | accept (env : AcceptEnv)
  | own (e : DaemonEvent) (noConnect : ∀ pid fd env, e ≠ .connect pid fd env)

inductive ListenOut where
  | accepted (fd : Int)
  | closed (fd : Int)
  | own (out : DaemonOut)

namespace Daemon

/-- The credentials are asked for under the name `client_fd`, which is declared nowhere: what the
question yields is an input. -/
def serverReadIoCb (d : Daemon) (env : AcceptEnv) : Daemon × List ListenOut :=
  let fd := env.accept
  if fd < 0 then (d, [])
  else if env.getsockopt ≠ 0 then (d, [.accepted fd, .closed fd])
  else
    let (d, outs) := d.recvClientConnect env.pid fd env.connect
    (d, .accepted fd :: outs.map .own)

def listenStep (codec : Codec) (d : Daemon) : ListenEvent → Daemon × List ListenOut
  | .accept env => if !d.alive then (d, []) else d.serverReadIoCb env
  | .own e _ =>
      let (d, outs) := step codec d e
      (d, outs.map .own)

def listening (codec : Codec) : StepMachine Daemon ListenEvent ListenOut := ⟨listenStep codec⟩

end Daemon

inductive FdCall where
  | accept (fd : Int)
  | close (fd : Int)
  | watch (fd : Int)
  deriving DecidableEq

def SysCall.onFd : SysCall → Option FdCall
  | .close fd => some (.close fd)
  | .watchCreate fd _ => some (.watch fd)
  | _ => none

def fdCall? : ListenOut → Option FdCall
  | .accepted fd => some (.accept fd)
  | .closed fd => some (.close fd)
  | .own (.task _ call) | .own (.client _ call) => call.onFd
  | .own _ => none

def clientFdCall? : ListenOut → Option FdCall
  | .own (.task _ _) => none
  | o => fdCall? o

/-- A descriptor that is accepted is closed, and only then watched, if at all. -/
def fdCycle (fd : Int × Bool) : List FdCall :=
  .accept fd.1 :: .close fd.1 :: if fd.2 then [.watch fd.1] else []

namespace TaskOp

theorem apply_unread {t : TaskObj} (unread : t.mReadIo = none) {op : TaskOp} (keeps : op ≠ .clear) :
    (op.apply t).task.mReadIo = none ∧ ∀ call ∈ (op.apply t).calls, call.onFd = none := by
  have started {t : TaskObj} (unread : t.mReadIo = none) (pid : Int) :
      (t.startTask pid).task.mReadIo = none ∧
        ∀ call ∈ (t.startTask pid).calls, call.onFd = none := by
    rw [TaskObj.startTask]
    split
    · exact ⟨unread, by simp⟩
    · exact ⟨unread, by simp [SysCall.onFd]⟩
  have stopped : t.stopTask.task.mReadIo = none ∧
      ∀ call ∈ t.stopTask.calls, call.onFd = none := by
    have nothing : t.closeReadIo = (t, []) := by rw [TaskObj.closeReadIo, unread]
    rw [TaskObj.stopTask, nothing]
    split
    · exact ⟨unread, by simp⟩
    · exact ⟨unread, by simp [SysCall.onFd]⟩
  have restarted (pid : Int) : (t.restartTask pid).task.mReadIo = none ∧
      ∀ call ∈ (t.restartTask pid).calls, call.onFd = none := by
    rcases started stopped.1 pid with ⟨after, calls⟩
    refine ⟨after, ?_⟩
    intro call member
    rcases List.mem_append.mp member with first | second
    · exact stopped.2 call first
    · exact calls call second
  cases op with
  | start pid => exact started unread pid
  | stop => exact stopped
  | restart pid => exact restarted pid
  | timeout pid => exact restarted pid
  | clear => exact absurd rfl keeps

end TaskOp

namespace Daemon

theorem taskCalls_unread {n : Nat} {s : Nat → TaskObj} {ops : List (Nat × TaskOp)}
    (unread : ∀ i, i < n → (s i).mReadIo = none) (makes : tasks.AllSteps (Makes n) s ops) :
    ∀ call ∈ tasks.trace s ops, call.2.onFd = none := by
  apply tasks.trace_forall (P := Makes n) (Q := fun call => call.2.onFd = none)
    (fun s => ∀ i, i < n → (s i).mReadIo = none) _ _ unread makes
  · intro s e held makes i inside
    change (Function.update s e.1 (e.2.apply (s e.1)).task i).mReadIo = none
    by_cases same : i = e.1
    · rw [same, Function.update_self]
      exact (TaskOp.apply_unread (held e.1 makes.1) makes.2).1
    · rw [Function.update_of_ne same]
      exact held i inside
  · intro s e held makes call member
    rcases List.mem_map.mp member with ⟨call', made, rfl⟩
    exact (TaskOp.apply_unread (held e.1 makes.1) makes.2).2 call' made

def daemonEvent? : ListenEvent → Option DaemonEvent
  | .accept env =>
      if env.accept < 0 ∨ env.getsockopt ≠ 0 then none
      else some (.connect env.pid env.accept env.connect)
  | .own e _ => some e

def ownOut? : ListenOut → Option DaemonOut
  | .own o => some o
  | _ => none

theorem ownOut_map (outs : List DaemonOut) : (outs.map ListenOut.own).filterMap ownOut? = outs := by
  rw [List.filterMap_map]
  exact List.filterMap_some

theorem listening_step (codec : Codec) (d : Daemon) (e : ListenEvent) :
    (listening codec).next d e = (machine codec).run d (daemonEvent? e).toList ∧
      ((listening codec).emit d e).filterMap ownOut? =
        (machine codec).trace d (daemonEvent? e).toList := by
  cases e with
  | own e _ =>
      constructor
      · rfl
      · exact (ownOut_map _).trans ((machine codec).trace_one d e).symm
  | accept env =>
      change (listenStep codec d (.accept env)).1 = _ ∧
        (listenStep codec d (.accept env)).2.filterMap ownOut? = _
      rw [listenStep, serverReadIoCb]
      by_cases failed : env.accept < 0
      · cases d.alive <;> simp [daemonEvent?, failed]
      by_cases unknown : env.getsockopt ≠ 0
      · cases d.alive <;> simp [daemonEvent?, failed, unknown, ownOut?]
      have connects : daemonEvent? (.accept env) =
          some (.connect env.pid env.accept env.connect) :=
        if_neg (not_or.mpr ⟨failed, unknown⟩)
      rw [connects, Option.toList_some, StepMachine.trace_one, StepMachine.run_cons,
        StepMachine.run_nil]
      cases alive : d.alive with
      | false =>
          rcases step_dead codec alive (.connect env.pid env.accept env.connect) with
            ⟨same, silent⟩
          rw [same, silent]
          exact ⟨rfl, rfl⟩
      | true =>
          rw [StepMachine.next, StepMachine.emit, step_alive codec alive]
          rw [if_neg (by simp), if_neg failed, if_neg unknown]
          exact ⟨rfl, ownOut_map _⟩

theorem listening_simulates (codec : Codec) :
    StepMachine.Simulation ((listening codec).seeing ownOut?) (machine codec) Eq (fun _ _ => True)
      (fun _ _ => True) fun o => [o] where
  step := by
    intro d e d' same _
    subst same
    rcases listening_step codec d e with ⟨state, outs⟩
    refine ⟨(daemonEvent? e).toList, state, ?_, StepMachine.allSteps_true _ _ (by simp) _ _⟩
    rw [List.flatMap_singleton']
    exact outs

theorem tasks_make_none (codec : Codec) {d : Daemon}
    (unread : ∀ t ∈ d.registry.taskList, t.mReadIo = none) (es : List ListenEvent) :
    ((listening codec).trace d es).filterMap fdCall? =
      ((listening codec).trace d es).filterMap clientFdCall? := by
  have guarded := StepMachine.allSteps_true ((listening codec).seeing ownOut?) (fun _ _ => True)
    (fun _ _ => trivial) d es
  rcases (listening_simulates codec).run rfl guarded with ⟨xs, _, outs, _⟩
  rw [StepMachine.seeing_trace, List.flatMap_singleton'] at outs
  rcases run_matched codec d xs with ⟨s, ops, before, _, _, calls, makes⟩
  have unread_s : ∀ i, i < d.registry.taskList.length → (s i).mReadIo = none := by
    intro i inside
    have found := List.getElem?_eq_getElem inside
    have same := congrArg TaskObj.mReadIo (before.2 i _ found)
    have here : d.registry.taskList[i].mReadIo = none := unread _ (List.mem_of_getElem? found)
    exact Eq.trans (Eq.symm same) here
  have none_made := taskCalls_unread unread_s makes
  apply List.filterMap_congr
  intro o member
  cases o with
  | accepted fd => rfl
  | closed fd => rfl
  | own o =>
      cases o with
      | task i call =>
          have emitted : .task i call ∈ (machine codec).trace d xs := by
            rw [← outs]
            exact List.mem_filterMap.mpr ⟨_, member, rfl⟩
          have made : (i, call) ∈ tasks.trace s ops := by
            rw [← calls]
            exact List.mem_filterMap.mpr ⟨_, emitted, rfl⟩
          exact none_made _ made
      | _ => rfl

end Daemon

namespace TaskObjClient

theorem stopTaskClient_onFd (c : TaskObjClient) :
    c.stopTaskClient.calls.filterMap SysCall.onFd =
      if c.mClientFd > 0 then [.close c.mClientFd] else [] := by
  have served : (if c.msgServer.isSome then [SysCall.deleteServer] else []).filterMap
      SysCall.onFd = [] := by
    split <;> rfl
  have watched : (c.mReadIo.toList.map SysCall.watchDestroy).filterMap SysCall.onFd = [] := by
    cases c.mReadIo <;> rfl
  simp only [stopTaskClient, List.filterMap_append, served, watched, List.nil_append]
  split <;> rfl

theorem stopTaskClient_closed {c : TaskObjClient} (closed : c.mClientFd ≤ 0) :
    c.stopTaskClient.client.mClientFd ≤ 0 ∧ c.stopTaskClient.calls.filterMap SysCall.onFd = [] := by
  have nothing : ¬ c.mClientFd > 0 := by omega
  constructor
  · simpa [stopTaskClient, nothing] using closed
  · rw [stopTaskClient_onFd, if_neg nothing]

theorem taskReadIoCb_closed {σ : Type*} (codec : Codec) (call : CallbackSem CoreCb Nat σ)
    (env : List UInt8 → MsgServer.RecvEnv) {c : TaskObjClient} (closed : c.mClientFd ≤ 0) (w : σ)
    (reads : List ReadResult) :
    (c.taskReadIoCb codec call env w reads).client.mClientFd ≤ 0 ∧
      (c.taskReadIoCb codec call env w reads).calls.filterMap SysCall.onFd = [] := by
  have stopped := stopTaskClient_closed closed
  induction reads with
  | nil => exact ⟨closed, rfl⟩
  | cons result reads ih =>
      cases result with
      | interrupted => exact ih
      | failed => exact stopped
      | bytes data =>
          rw [taskReadIoCb]
          split
          · exact stopped
          · rw [recvData]
            split
            · exact ⟨closed, rfl⟩
            · dsimp only
              split
              · exact stopTaskClient_closed closed
              · exact ⟨closed, rfl⟩

theorem create_cycle {fd : Int} (positive : 0 < fd) (self : Nat) (pid : Int) (env : ConnectEnv) :
    (∀ c ∈ (create self fd pid env).1, c.mClientFd ≤ 0) ∧
      (create self fd pid env).2.filterMap SysCall.onFd = [.close fd, .watch fd] := by
  let c : TaskObjClient := { env.memory with mClientFd := fd, mPid := pid }
  have begins : c.stopTaskClient.calls.filterMap SysCall.onFd = [.close fd] :=
    (stopTaskClient_onFd c).trans (if_pos positive)
  have opening : (c.stopTaskClient.calls ++ [SysCall.watchCreate fd self]).filterMap SysCall.onFd =
      [.close fd, .watch fd] := by
    rw [List.filterMap_append, begins]
    rfl
  have closed : c.stopTaskClient.client.mClientFd ≤ 0 := by
    simp [stopTaskClient, c, positive]
  change (∀ made ∈ (if (c.startTaskClient self fd env).ret ≠ some 0 then none
      else some (c.startTaskClient self fd env).client), made.mClientFd ≤ 0) ∧
    (c.startTaskClient self fd env).calls.filterMap SysCall.onFd = [.close fd, .watch fd]
  rw [startTaskClient]
  split
  · refine ⟨?_, opening⟩
    intro made member
    rw [if_pos (by simpa using ‹_›)] at member
    cases member
  split
  · exact ⟨by simp, opening⟩
  · refine ⟨?_, opening⟩
    intro made member
    obtain rfl := Option.some.inj member
    exact closed

end TaskObjClient

namespace Daemon

def Closed (d : Daemon) : Prop := ∀ entry ∈ d.clients, entry.2.mClientFd ≤ 0

theorem Closed.found {d : Daemon} (closed : d.Closed) {address : Nat} {c : TaskObjClient}
    (found : d.findClient address = some c) : c.mClientFd ≤ 0 := by
  rcases Option.map_eq_some_iff.mp found with ⟨entry, first, rfl⟩
  exact closed entry (List.mem_of_find?_eq_some first)

theorem Closed.set {d : Daemon} (closed : d.Closed) {c : TaskObjClient} (own : c.mClientFd ≤ 0)
    (address : Nat) : (d.setClient address c).Closed := by
  intro entry member
  rcases List.mem_cons.mp member with rfl | other
  · exact own
  · exact closed entry (List.mem_of_mem_filter other)

def fdCalls (outs : List DaemonOut) : List FdCall :=
  (outs.map ListenOut.own).filterMap clientFdCall?

theorem fdCalls_append (front back : List DaemonOut) :
    fdCalls (front ++ back) = fdCalls front ++ fdCalls back := by
  rw [fdCalls, List.map_append, List.filterMap_append]
  rfl

theorem fdCalls_client (address : Nat) (calls : List SysCall) :
    fdCalls (calls.map (.client address)) = calls.filterMap SysCall.onFd := by
  rw [fdCalls, List.map_map, List.filterMap_map]
  rfl

def FdStep (r : Daemon × List DaemonOut) (calls : List FdCall) : Prop :=
  r.1.Closed ∧ fdCalls r.2 = calls

theorem FdStep.then {d d' : Daemon} {outs outs' : List DaemonOut} {calls calls' : List FdCall}
    (first : FdStep (d, outs) calls) (second : FdStep (d', outs') calls') :
    FdStep (d', outs ++ outs') (calls ++ calls') := by
  refine ⟨second.1, ?_⟩
  rw [fdCalls_append, first.2, second.2]

theorem deleteClient_fds {d : Daemon} (closed : d.Closed) (address : Nat) :
    FdStep (d.deleteClient address) [] := by
  rw [deleteClient]
  split
  · exact ⟨closed, rfl⟩
  · rename_i c found
    constructor
    · intro entry member
      exact closed entry (List.mem_of_mem_filter member)
    · rw [fdCalls_append, fdCalls_client,
        (TaskObjClient.stopTaskClient_closed (closed.found found)).2]
      rfl

theorem newClient_fds {d : Daemon} (closed : d.Closed) {fd : Int} (positive : 0 < fd) (pid : Int)
    (env : ConnectEnv) : FdStep (d.newClient fd pid env).2 [.close fd, .watch fd] := by
  rcases TaskObjClient.create_cycle positive d.created pid env with ⟨own, calls⟩
  rw [newClient]
  generalize TaskObjClient.create d.created fd pid env = made at own calls
  rcases made with ⟨made, made_calls⟩
  cases made with
  | none => exact ⟨closed, (fdCalls_client _ _).trans calls⟩
  | some c =>
      refine ⟨?_, (fdCalls_client _ _).trans calls⟩
      have later : Closed { d with created := d.created + 1 } := closed
      exact later.set (own c rfl) _

theorem terminate_fds {d : Daemon} (closed : d.Closed) : FdStep d.terminate [] := ⟨closed, rfl⟩

theorem stopTaskClient_fds {d : Daemon} (closed : d.Closed) (i : Nat) (t : TaskObj) :
    FdStep (d.stopTaskClient i t) [] := by
  rw [stopTaskClient]
  cases t.mClient with
  | none => exact ⟨closed, rfl⟩
  | some address => exact deleteClient_fds closed address

theorem startTaskClient_fds {d : Daemon} (closed : d.Closed) (i : Nat) (t : TaskObj) {fd : Int}
    (positive : 0 < fd) (env : ConnectEnv) :
    FdStep (d.startTaskClient i t fd env) [.close fd, .watch fd] := by
  have stopped := stopTaskClient_fds closed i t
  rw [startTaskClient]
  generalize d.stopTaskClient i t = r at stopped
  rcases r with ⟨d', gone⟩
  have made := newClient_fds stopped.1 positive t.mPid env
  dsimp only at made ⊢
  generalize d'.newClient fd t.mPid env = r at made
  rcases r with ⟨address, d'', outs⟩
  cases address with
  | none => exact (stopped.then made).then (terminate_fds made.1)
  | some address => exact stopped.then made

theorem recvClientConnect_fds {d : Daemon} (closed : d.Closed) (pid : Int) {fd : Int}
    (positive : 0 < fd) (env : ConnectEnv) :
    FdStep (d.recvClientConnect pid fd env) [.close fd, .watch fd] := by
  rw [recvClientConnect]
  split
  · rename_i i found
    rcases List.findIdx?_eq_some_iff_getElem.mp found with ⟨inside, _⟩
    rw [List.getElem?_eq_getElem inside]
    exact startTaskClient_fds closed i _ positive env
  · have made := newClient_fds closed positive pid env
    generalize d.newClient fd pid env = r at made
    rcases r with ⟨address, d', outs⟩
    cases address with
    | none => exact made.then (terminate_fds made.1)
    | some address => exact made

theorem clearClients_fds {d : Daemon} (closed : d.Closed) (addresses : List Nat) :
    FdStep (d.clearClients addresses) [] := by
  induction addresses generalizing d with
  | nil => exact ⟨closed, rfl⟩
  | cons address later ih =>
      rw [clearClients]
      cases d.findClient address with
      | none =>
          have first : FdStep (d, [.dangling address]) [] := ⟨closed, rfl⟩
          exact first.then (ih closed)
      | some c =>
          by_cases stale : c.isClientAvailable = 0
          · have first := deleteClient_fds closed address
            simp only [stale, if_true]
            exact first.then (ih first.1)
          · have first : FdStep (d, []) [] := ⟨closed, rfl⟩
            simp only [stale, if_false]
            exact first.then (ih closed)

theorem readable_fds (codec : Codec) {d : Daemon} (closed : d.Closed) (address : Nat)
    (env : ReadEnv) : FdStep (d.readable codec address env) [] := by
  rw [readable]
  split
  · exact ⟨closed, rfl⟩
  · rename_i c found
    rcases c.taskReadIoCb_closed codec (coreCallbacks env.callback) env.recvEnv (closed.found found)
      ⟨d.registry, []⟩ env.reads with ⟨own, calls⟩
    dsimp only
    constructor
    · exact Closed.set (d := { d with registry := _ }) closed own address
    · have tasks : ∀ calls : List (Nat × SysCall),
          fdCalls (calls.map fun call => .task call.1 call.2) = [] := by
        intro calls
        rw [fdCalls, List.map_map, List.filterMap_map]
        exact List.filterMap_eq_nil_iff.mpr fun _ _ => rfl
      have served (parsed : Option (ServerResult CoreCb Nat CoreWorld)) :
          fdCalls (parsed.toList.map fun p => .served address p.invoked p.wire) = [] := by
        cases parsed <;> rfl
      rw [fdCalls_append, fdCalls_append, fdCalls_client, calls, tasks, served]
      rfl

theorem tick_fds {d : Daemon} (closed : d.Closed) (dt : ℚ) (fork : Nat → Int) :
    FdStep (d.tick dt fork) [] := by
  refine ⟨closed, ?_⟩
  apply List.filterMap_eq_nil_iff.mpr
  intro o member
  rcases List.mem_map.mp member with ⟨o, emitted, rfl⟩
  rcases tick_own o emitted with ⟨i, rfl | ⟨call, rfl⟩⟩ <;> rfl

theorem step_fds (codec : Codec) {d : Daemon} (closed : d.Closed) {e : DaemonEvent}
    (noConnect : ∀ pid fd env, e ≠ .connect pid fd env) : FdStep (step codec d e) [] := by
  rw [step.eq_def]
  split
  · exact ⟨closed, rfl⟩
  cases e with
  | tick dt fork => exact tick_fds closed dt fork
  | connect pid fd env => exact absurd rfl (noConnect pid fd env)
  | readable address env => exact readable_fds codec closed address env
  | clearClients => exact clearClients_fds closed _

/-- Whatever happens, a descriptor that is accepted is closed in the same step. -/
theorem listening_fds (codec : Codec) {d : Daemon} (closed : d.Closed) {e : ListenEvent}
    (positive : ∀ env, e = .accept env → env.accept ≠ 0) :
    ((listening codec).next d e).Closed ∧ ∃ fds : List (Int × Bool),
      ((listening codec).emit d e).filterMap clientFdCall? = fds.flatMap fdCycle := by
  cases e with
  | own e noConnect =>
      rcases step_fds codec closed noConnect with ⟨after, calls⟩
      exact ⟨after, [], calls⟩
  | accept env =>
      change (listenStep codec d (.accept env)).1.Closed ∧ ∃ fds : List (Int × Bool),
        (listenStep codec d (.accept env)).2.filterMap clientFdCall? = fds.flatMap fdCycle
      rw [listenStep, serverReadIoCb]
      split
      · exact ⟨closed, [], rfl⟩
      split
      · exact ⟨closed, [], rfl⟩
      split
      · exact ⟨closed, [(env.accept, false)], rfl⟩
      · rename_i opened _
        have nonzero := positive env rfl
        rcases recvClientConnect_fds closed env.pid (by omega : 0 < env.accept) env.connect with
          ⟨after, calls⟩
        refine ⟨after, [(env.accept, true)], ?_⟩
        exact congrArg (FdCall.accept env.accept :: ·) calls

theorem listening_cycles (codec : Codec) {d : Daemon} (closed : d.Closed) {es : List ListenEvent}
    (positive : ∀ env, .accept env ∈ es → env.accept ≠ 0) :
    ∃ fds : List (Int × Bool),
      ((listening codec).trace d es).filterMap clientFdCall? = fds.flatMap fdCycle := by
  induction es generalizing d with
  | nil => exact ⟨[], rfl⟩
  | cons e es ih =>
      have own : ∀ env, e = .accept env → env.accept ≠ 0 := by
        intro env same
        exact positive env (same ▸ List.mem_cons_self)
      rcases listening_fds codec closed own with ⟨after, fds, calls⟩
      rcases ih after fun env member => positive env (List.mem_cons_of_mem e member) with
        ⟨fds', calls'⟩
      refine ⟨fds ++ fds', ?_⟩
      rw [StepMachine.trace_cons, List.filterMap_append, calls, calls', List.flatMap_append]

end Daemon

theorem taskParamCb_unread {w : CoreWorld} (unread : ∀ t ∈ w.registry.taskList, t.mReadIo = none)
    (task : ConfiguredTask) :
    ∀ t ∈ (taskParamCb w task.1 task.2).1.registry.taskList, t.mReadIo = none := by
  cases works : task.2.timerOk with
  | false =>
      rw [(taskParamCb_throws works w).2]
      exact unread
  | true =>
      rw [taskParamCb_works works w]
      intro t member
      rcases List.mem_append.mp member with old | new
      · exact unread t old
      · obtain rfl := List.mem_singleton.mp new
        have starts : TaskOp.start task.2.fork ≠ .clear := by simp
        exact (TaskOp.apply_unread (t := newTask task) rfl starts).1

theorem foreachTask_unread (tasks : List ConfiguredTask) {w : CoreWorld}
    (unread : ∀ t ∈ w.registry.taskList, t.mReadIo = none) :
    ∀ t ∈ (foreachTask (fun w task => taskParamCb w task.1 task.2) tasks w).1.registry.taskList,
      t.mReadIo = none := by
  induction tasks generalizing w with
  | nil => exact unread
  | cons task tasks ih =>
      have registered := taskParamCb_unread unread task
      rw [foreachTask]
      split
      · exact ih registered
      · exact registered

theorem taskCoreInit_unread (timerOk : Bool) (tasks : List ConfiguredTask) :
    ∀ t ∈ (taskCoreInit timerOk tasks).daemon.registry.taskList, t.mReadIo = none := by
  change ∀ t ∈ (taskCoreInit timerOk tasks).world.registry.taskList, t.mReadIo = none
  rw [taskCoreInit]
  split
  · exact foreachTask_unread tasks (by simp [emptyWorld])
  · simp [emptyWorld]

def acceptRun : List ListenEvent :=
  [.accept ⟨7, 0, 90, ⟨⟨0, 0, none, none, 0⟩, 0, some fun _ => none⟩⟩, .own .clearClients nofun,
    .accept ⟨8, -1, 90, ⟨⟨0, 0, none, none, 0⟩, 0, none⟩⟩]

example : ((Daemon.listening textCodec).trace (taskCoreInit true []).daemon acceptRun).filterMap
    fdCall? = [.accept 7, .close 7, .watch 7, .accept 8, .close 8] := by
  decide +kernel

end TaskMonitor
