import TaskMonitor.Daemon

/-! What one event of the daemon can do to a task. -/

namespace TaskMonitor

open CText Cjson

namespace MsgServer

variable {κ υ σ : Type*}

def Touched (call : CallbackSem κ υ σ) (w w' : σ) : Prop :=
  w' = w ∨ ∃ cb t req usrData, w' = (call cb t req usrData w).world

def userDataType : EventType → EventType
  | .heartbeat => .heartbeat
  | _ => .queryAll

/-- A reported invocation is of the callback registered for its type, with the user data of
`userDataType`, and does what becomes of the world. Without one the world stays as it is. -/
def Reported (call : CallbackSem κ υ σ) (srv : MsgServer κ υ) (w w' : σ) :
    Option (Invocation κ υ) → Prop
  | none => w' = w
  | some inv =>
      srv.mEventCb inv.type = some inv.cb ∧ inv.usrData = srv.mUserData (userDataType inv.type) ∧
        w' = (call inv.cb inv.type inv.req inv.usrData w).world

theorem Reported.touched {call : CallbackSem κ υ σ} {srv : MsgServer κ υ} {w w' : σ}
    {invoked : Option (Invocation κ υ)} (reported : Reported call srv w w' invoked) :
    Touched call w w' := by
  cases invoked with
  | none => exact .inl reported
  | some inv => exact .inr ⟨inv.cb, inv.type, inv.req, inv.usrData, reported.2.2⟩

theorem processReq_reported {type usrType : EventType} {decode : Option Json → Option (Req type)}
    {encode : Option (Rsp type) → Option Json} (looked : usrType = userDataType type)
    (codec : Codec) (call : CallbackSem κ υ σ) (alloc : AllocSite → Bool) (srv : MsgServer κ υ)
    (data : Option Json) (w : σ) :
    Reported call srv w (processReq type usrType decode encode codec call alloc srv data w).world
      (processReq type usrType decode encode codec call alloc srv data w).invoked := by
  subst looked
  rw [processReq]
  cases decode data with
  | none => rfl
  | some req =>
      cases registered : srv.mEventCb type with
      | none => rfl
      | some cb =>
          dsimp only
          split
          · exact ⟨registered, rfl, rfl⟩
          · split
            · exact ⟨registered, rfl, rfl⟩
            · split <;> exact ⟨registered, rfl, rfl⟩

theorem dispatch_reported (codec : Codec) (call : CallbackSem κ υ σ) (alloc : AllocSite → Bool)
    (srv : MsgServer κ υ) (type : Int) (value : Option Json) (w : σ) :
    Reported call srv w (dispatch codec call alloc srv type value w).world
      (dispatch codec call alloc srv type value w).invoked := by
  rw [dispatch]
  split
  · exact processReq_reported rfl ..
  split
  · exact processReq_reported rfl ..
  split
  · exact processReq_reported rfl ..
  split
  · exact processReq_reported rfl ..
  · rfl

theorem parseServerData_reported (codec : Codec) (call : CallbackSem κ υ σ)
    (alloc : AllocSite → Bool) (outcomes : List WriteOutcome) (srv : MsgServer κ υ)
    (reqId : UInt32) (data : List UInt8) (w : σ) :
    Reported call srv w (parseServerData codec call alloc outcomes srv reqId data w).world
      (parseServerData codec call alloc outcomes srv reqId data w).invoked := by
  rw [parseServerData]
  split
  · rfl
  · split
    · rfl
    · dsimp only
      split <;> exact dispatch_reported ..

end MsgServer

inductive Acted (w : CoreWorld) : CoreWorld → Prop where
  | none : Acted w w
  | start (i : Nat) (pid : Int) : Acted w (w.actOn i (·.startTask pid))
  | stop (i : Nat) : Acted w (w.actOn i (·.stopTask))
  | restart (i : Nat) (pid : Int) : Acted w (w.actOn i (·.restartTask pid))

theorem processTaskAction_acted (env : CbEnv) (req : TaskActionReq) (w : CoreWorld) :
    Acted w (processTaskAction env req w).world := by
  rw [processTaskAction]
  split
  · exact .none
  · rename_i task _
    split
    · exact .start task env.fork
    split
    · exact .stop task
    split
    · exact .restart task env.fork
    · exact .none

theorem reading_callbacks (env : CbEnv) (usrData : Option Nat) (req : TaskSingleReq)
    (w : CoreWorld) :
    (processHeartbeat env usrData w).world = w ∧ (processGetAllTask env w).world = w ∧
      (processGetSingleTask env req w).world = w := by
  refine ⟨?_, ?_, ?_⟩
  · rw [processHeartbeat]
    split <;> rfl
  · rw [processGetAllTask]
    split <;> rfl
  · rw [processGetSingleTask]
    split
    · rfl
    · split <;> rfl

theorem coreCallbacks_acted (env : CbEnv) (cb : CoreCb) (t : EventType) (req : Req t)
    (usrData : Option Nat) (w : CoreWorld) :
    Acted w (coreCallbacks env cb t req usrData w).world := by
  have reads (req : TaskSingleReq) := reading_callbacks env usrData req w
  have blank : TaskSingleReq := ⟨0, .zero 32 nameSize_pos⟩
  simp only [coreCallbacks]
  split
  · rw [(reads blank).1]
    exact .none
  · rw [(reads blank).2.1]
    exact .none
  · rename_i single
    rw [(reads single).2.2]
    exact .none
  · exact processTaskAction_acted ..
  · exact .none

namespace Daemon

/-- What a step does to the timer of a task, with the calls it makes on the task: nothing,
a start, with a `fork`, or a stop, without one. -/
inductive TaskStep (t t' : TaskObj) (calls : List SysCall) : Prop where
  | kept (status : t'.mStatus = t.mStatus) (timer : t'.mTimer = t.mTimer)
      (quiet : ∀ pid, .fork pid ∉ calls)
  | started (running : t'.mStatus ≠ .U) (timer : t'.mTimer = t.mTimer.map Timer.start)
      (pid : Int) (forked : .fork pid ∈ calls)
  | stopped (unknown : t'.mStatus = .U) (timer : t'.mTimer = t.mTimer.map Timer.stop)
      (quiet : ∀ pid, .fork pid ∉ calls)

theorem startTask_step (t : TaskObj) (pid : Int) :
    TaskStep t (t.startTask pid).task (t.startTask pid).calls := by
  rw [TaskObj.startTask]
  split
  · exact .kept rfl rfl (by simp)
  · exact .started (by simp) rfl pid (by simp)

theorem stopTask_step (t : TaskObj) : TaskStep t t.stopTask.task t.stopTask.calls := by
  have noFork : ∀ pid, .fork pid ∉ t.closeReadIo.2 := fun pid member =>
    t.closeReadIo_inert _ member
  rw [TaskObj.stopTask]
  split
  · exact .kept rfl rfl (by simp)
  · refine .stopped rfl (congrArg (Option.map Timer.stop) t.closeReadIo_mTimer) ?_
    intro pid
    simpa using noFork pid

theorem restartTask_started (t : TaskObj) (pid : Int) :
    (t.restartTask pid).task.mStatus ≠ .U ∧
      (t.restartTask pid).task.mTimer = t.mTimer.map Timer.start ∧
      .fork pid ∈ (t.restartTask pid).calls := by
  have started := TaskObj.startTask_of_idle t.stopTask_idle pid
  have timer : t.stopTask.task.mTimer.map Timer.start = t.mTimer.map Timer.start := by
    cases stopTask_step t with
    | kept _ same _ => rw [same]
    | started running _ _ _ => exact absurd t.stopTask_idle running
    | stopped _ same _ =>
        rw [same, Option.map_map]
        rfl
  simp only [TaskObj.restartTask, started]
  exact ⟨by simp, timer, by simp⟩

theorem restartTask_step (t : TaskObj) (pid : Int) :
    TaskStep t (t.restartTask pid).task (t.restartTask pid).calls := by
  rcases restartTask_started t pid with ⟨running, timer, forked⟩
  exact .started running timer pid forked

def OfNoTask : DaemonOut → Prop
  | .task _ _ | .timedOut _ => False
  | _ => True

def OfClients : DaemonOut → Prop
  | .client _ _ | .uncaught | .dangling _ => True
  | _ => False

theorem OfClients.ofNoTask {o : DaemonOut} (about : OfClients o) : OfNoTask o := by
  cases o <;> trivial

theorem map_client_ofClients (address : Nat) (calls : List SysCall) :
    ∀ o ∈ calls.map (DaemonOut.client address), OfClients o := by
  intro o member
  rcases List.mem_map.mp member with ⟨call, _, rfl⟩
  trivial

theorem append_all {P : DaemonOut → Prop} {front back : List DaemonOut} (first : ∀ o ∈ front, P o)
    (second : ∀ o ∈ back, P o) : ∀ o ∈ front ++ back, P o := by
  intro o member
  rcases List.mem_append.mp member with left | right
  · exact first o left
  · exact second o right

theorem deleteClient_registry (d : Daemon) (address : Nat) :
    (d.deleteClient address).1.registry = d.registry ∧
      ∀ o ∈ (d.deleteClient address).2, OfClients o := by
  rw [deleteClient]
  split
  · exact ⟨rfl, by simp [OfClients]⟩
  · exact ⟨rfl, append_all (map_client_ofClients _ _) (by simp [OfClients])⟩

theorem newClient_registry (d : Daemon) (fd pid : Int) (env : ConnectEnv) :
    (d.newClient fd pid env).2.1.registry = d.registry ∧
      ∀ o ∈ (d.newClient fd pid env).2.2, OfClients o := by
  rw [newClient]
  dsimp only
  cases (TaskObjClient.create d.created fd pid env).1 with
  | none => exact ⟨rfl, map_client_ofClients _ _⟩
  | some c => exact ⟨rfl, map_client_ofClients _ _⟩

theorem clearClients_registry (d : Daemon) (addresses : List Nat) :
    (d.clearClients addresses).1.registry = d.registry ∧
      ∀ o ∈ (d.clearClients addresses).2, OfClients o := by
  induction addresses generalizing d with
  | nil => exact ⟨rfl, by simp [clearClients]⟩
  | cons address later ih =>
      rw [clearClients]
      cases found : d.findClient address with
      | none =>
          rcases ih d with ⟨same, silent⟩
          exact ⟨same, append_all (by simp [OfClients]) silent⟩
      | some c =>
          dsimp only
          split
          · rcases ih (d.deleteClient address).1 with ⟨same, silent⟩
            rcases d.deleteClient_registry address with ⟨same', silent'⟩
            exact ⟨same.trans same', append_all silent' silent⟩
          · rcases ih d with ⟨same, silent⟩
            exact ⟨same, append_all (by simp) silent⟩

def KeepsTasks (r r' : Registry) : Prop :=
  ∀ (i : Nat) (t : TaskObj), r.taskList[i]? = some t → ∃ t' : TaskObj,
    r'.taskList[i]? = some t' ∧ t'.mStatus = t.mStatus ∧ t'.mTimer = t.mTimer

theorem keepsTasks_of_eq {r r' : Registry} (same : r' = r) : KeepsTasks r r' :=
  fun _ t member => ⟨t, same ▸ member, rfl, rfl⟩

theorem KeepsTasks.trans {r₁ r₂ r₃ : Registry} (first : KeepsTasks r₁ r₂)
    (second : KeepsTasks r₂ r₃) : KeepsTasks r₁ r₃ := by
  intro i t member
  rcases first i t member with ⟨t', member', status, timer⟩
  rcases second i t' member' with ⟨t'', member'', status', timer'⟩
  exact ⟨t'', member'', status'.trans status, timer'.trans timer⟩

theorem getElem?_setTask {d : Daemon} {i : Nat} {t : TaskObj}
    (found : d.registry.taskList[i]? = some t) (t' : TaskObj) :
    (d.setTask i t').registry.taskList[i]? = some t' := by
  rcases List.getElem?_eq_some_iff.mp found with ⟨bound, _⟩
  exact List.getElem?_set_self bound

theorem keepsTasks_setTask {d : Daemon} {j : Nat} {t t' : TaskObj}
    (found : d.registry.taskList[j]? = some t) (status : t'.mStatus = t.mStatus)
    (timer : t'.mTimer = t.mTimer) : KeepsTasks d.registry (d.setTask j t').registry := by
  intro i task member
  by_cases same : j = i
  · subst same
    rw [found] at member
    cases member
    exact ⟨t', getElem?_setTask found t', status, timer⟩
  · exact ⟨task, (List.getElem?_set_ne same).trans member, rfl, rfl⟩

theorem stopTaskClient_keeps {d : Daemon} {i : Nat} {t : TaskObj}
    (found : d.registry.taskList[i]? = some t) :
    KeepsTasks d.registry (d.stopTaskClient i t).1.registry ∧
      (d.stopTaskClient i t).1.registry.taskList[i]? = some t.stopTaskClient.task ∧
      ∀ o ∈ (d.stopTaskClient i t).2, OfClients o := by
  have detaching := t.stopTaskClient_task
  have status : t.stopTaskClient.task.mStatus = t.mStatus := by rw [detaching]
  have timer : t.stopTaskClient.task.mTimer = t.mTimer := by rw [detaching]
  rw [stopTaskClient]
  cases t.mClient with
  | none => exact ⟨keepsTasks_setTask found status timer, getElem?_setTask found _, by simp⟩
  | some address =>
      rcases d.deleteClient_registry address with ⟨same, silent⟩
      have still : (d.deleteClient address).1.registry.taskList[i]? = some t := by rw [same, found]
      exact ⟨(keepsTasks_of_eq same).trans (keepsTasks_setTask still status timer),
        getElem?_setTask still _, silent⟩

theorem startTaskClient_keeps {d : Daemon} {i : Nat} {t : TaskObj}
    (found : d.registry.taskList[i]? = some t) (fd : Int) (env : ConnectEnv) :
    KeepsTasks d.registry (d.startTaskClient i t fd env).1.registry ∧
      ∀ o ∈ (d.startTaskClient i t fd env).2, OfClients o := by
  rcases stopTaskClient_keeps found with ⟨kept, present, silent⟩
  rw [startTaskClient]
  generalize d.stopTaskClient i t = stopped at kept present silent
  rcases stopped with ⟨d', gone⟩
  dsimp only at kept present silent ⊢
  rcases d'.newClient_registry fd t.mPid env with ⟨same, silent'⟩
  generalize d'.newClient fd t.mPid env = made at same silent'
  rcases made with ⟨address, d'', outs⟩
  dsimp only at same silent'
  cases address with
  | none =>
      exact ⟨kept.trans (keepsTasks_of_eq same),
        append_all (append_all silent silent') (by simp [terminate, OfClients])⟩
  | some address =>
      rw [← same] at present
      exact ⟨(kept.trans (keepsTasks_of_eq same)).trans (keepsTasks_setTask present rfl rfl),
        append_all silent silent'⟩

theorem recvClientConnect_keeps (d : Daemon) (pid fd : Int) (env : ConnectEnv) :
    KeepsTasks d.registry (d.recvClientConnect pid fd env).1.registry ∧
      ∀ o ∈ (d.recvClientConnect pid fd env).2, OfClients o := by
  rw [recvClientConnect]
  split
  · split
    · exact ⟨keepsTasks_of_eq rfl, by simp⟩
    · rename_i t found
      exact startTaskClient_keeps found fd env
  · rcases d.newClient_registry fd pid env with ⟨same, silent⟩
    generalize d.newClient fd pid env = made at same silent
    rcases made with ⟨address, d', outs⟩
    cases address with
    | none => exact ⟨keepsTasks_of_eq same, append_all silent (by simp [terminate, OfClients])⟩
    | some address => exact ⟨keepsTasks_of_eq same, silent⟩

def callsOf (i : Nat) (outs : List DaemonOut) : List SysCall :=
  outs.filterMap fun
    | .task j call => if j = i then some call else none
    | _ => none

theorem callsOf_ofNoTask {outs : List DaemonOut} (silent : ∀ o ∈ outs, OfNoTask o) (i : Nat) :
    callsOf i outs = [] ∧ .timedOut i ∉ outs := by
  constructor
  · apply List.filterMap_eq_nil_iff.mpr
    intro o member
    have away := silent o member
    cases o <;> first | rfl | exact away.elim
  · intro member
    exact silent _ member

theorem callsOf_map (i j : Nat) (calls : List SysCall) :
    callsOf i (calls.map (DaemonOut.task j)) = if j = i then calls else [] := by
  induction calls with
  | nil => simp [callsOf]
  | cons call calls ih =>
      rw [callsOf] at ih ⊢
      by_cases same : j = i <;> simp_all

theorem callsOf_append (i : Nat) (front back : List DaemonOut) :
    callsOf i (front ++ back) = callsOf i front ++ callsOf i back := List.filterMap_append

def taskOut (call : Nat × SysCall) : DaemonOut := .task call.1 call.2

theorem actOn_step {r : Registry} {i j : Nat} {t : TaskObj} {method : TaskObj → TaskResult}
    (step : ∀ t, TaskStep t (method t).task (method t).calls) (found : r.taskList[i]? = some t) :
    ∃ t', (CoreWorld.actOn ⟨r, []⟩ j method).registry.taskList[i]? = some t' ∧
      TaskStep t t' (callsOf i ((CoreWorld.actOn ⟨r, []⟩ j method).calls.map taskOut)) := by
  rw [CoreWorld.actOn]
  cases other : r.taskList[j]? with
  | none => exact ⟨t, found, .kept rfl rfl (by simp [callsOf])⟩
  | some task =>
      have outs : ((method task).calls.map fun call => (j, call)).map taskOut =
          (method task).calls.map (DaemonOut.task j) := by
        rw [List.map_map]
        rfl
      dsimp only
      rw [List.nil_append, outs, callsOf_map]
      by_cases same : j = i
      · subst same
        rw [found] at other
        cases other
        rcases List.getElem?_eq_some_iff.mp found with ⟨bound, _⟩
        rw [if_pos rfl]
        exact ⟨(method t).task, List.getElem?_set_self bound, step t⟩
      · rw [if_neg same]
        exact ⟨t, (List.getElem?_set_ne same).trans found, .kept rfl rfl (by simp)⟩

theorem acted_step {r : Registry} {w : CoreWorld} (acted : Acted ⟨r, []⟩ w) {i : Nat} {t : TaskObj}
    (found : r.taskList[i]? = some t) :
    ∃ t', w.registry.taskList[i]? = some t' ∧ TaskStep t t' (callsOf i (w.calls.map taskOut)) := by
  cases acted with
  | none => exact ⟨t, found, .kept rfl rfl (by simp [callsOf])⟩
  | start j pid => exact actOn_step (startTask_step · pid) found
  | stop j => exact actOn_step stopTask_step found
  | restart j pid => exact actOn_step (restartTask_step · pid) found

theorem taskReadIoCb_reported {σ : Type*} (codec : Codec) (call : CallbackSem CoreCb Nat σ)
    (env : List UInt8 → MsgServer.RecvEnv) (c : TaskObjClient) (w : σ) (reads : List ReadResult) :
    ∀ p ∈ (c.taskReadIoCb codec call env w reads).parsed, ∃ server, c.msgServer = some server ∧
      MsgServer.Reported call server w p.world p.invoked := by
  induction reads with
  | nil => simp [TaskObjClient.taskReadIoCb]
  | cons result reads ih =>
      cases result with
      | interrupted => exact ih
      | failed => simp [TaskObjClient.taskReadIoCb]
      | bytes data =>
          rw [TaskObjClient.taskReadIoCb]
          split
          · simp
          · rw [TaskObjClient.recvData]
            cases c.msgServer with
            | none => simp
            | some server =>
                generalize env (data.take TaskObjClient.bufLen) = taken
                have reported := recvData_parsed
                  (Q := fun p => MsgServer.Reported call server w p.world p.invoked)
                  (MsgServer.parsePackage codec call taken server w)
                  (fun package => MsgServer.parseServerData_reported ..) server.mRb taken.call
                intro p parsed
                refine ⟨server, rfl, reported p ?_⟩
                dsimp only at parsed
                split at parsed <;> exact parsed

inductive ReadOutcome (d : Daemon) (address : Nat) (callback : CbEnv) :
    Registry → List DaemonOut → Prop where
  | gone (absent : d.findClient address = none) :
      ReadOutcome d address callback d.registry [.dangling address]
  | quiet (c : TaskObjClient) (outs : List DaemonOut) (found : d.findClient address = some c)
      (about : ∀ o ∈ outs, OfClients o) : ReadOutcome d address callback d.registry outs
  | request (c : TaskObjClient) (server : MsgServer CoreCb Nat) (w : CoreWorld)
      (invoked : Option (Invocation CoreCb Nat)) (wire : List UInt8) (outs : List DaemonOut)
      (found : d.findClient address = some c) (present : c.msgServer = some server)
      (reported : MsgServer.Reported (coreCallbacks callback) server ⟨d.registry, []⟩ w invoked)
      (about : ∀ o ∈ outs, OfClients o) :
      ReadOutcome d address callback w.registry
        (w.calls.map taskOut ++ .served address invoked wire :: outs)

theorem readable_outcome (codec : Codec) (d : Daemon) (address : Nat) (env : ReadEnv) :
    ReadOutcome d address env.callback (d.readable codec address env).1.registry
      (d.readable codec address env).2 := by
  rw [readable]
  cases found : d.findClient address with
  | none => exact .gone found
  | some c =>
      dsimp only
      have reported := taskReadIoCb_reported codec (coreCallbacks env.callback) env.recvEnv c
        ⟨d.registry, []⟩ env.reads
      generalize c.taskReadIoCb codec (coreCallbacks env.callback) env.recvEnv ⟨d.registry, []⟩
        env.reads = r at reported
      have about := map_client_ofClients address r.calls
      cases parsed : r.parsed with
      | none => exact .quiet c _ found about
      | some p =>
          rcases reported p parsed with ⟨server, present, report⟩
          have outs : p.world.calls.map taskOut ++ [.served address p.invoked p.wire] ++
              r.calls.map (.client address) = p.world.calls.map taskOut ++
                .served address p.invoked p.wire :: r.calls.map (.client address) := by
            simp
          have outcome := ReadOutcome.request c server p.world p.invoked p.wire _ found present
            report about
          rw [← outs] at outcome
          exact outcome

theorem readable_step (codec : Codec) (d : Daemon) (address : Nat) (env : ReadEnv) {i : Nat}
    {t : TaskObj} (found : d.registry.taskList[i]? = some t) :
    ∃ t', (d.readable codec address env).1.registry.taskList[i]? = some t' ∧
      TaskStep t t' (callsOf i (d.readable codec address env).2) ∧
      .timedOut i ∉ (d.readable codec address env).2 := by
  have outcome := readable_outcome codec d address env
  generalize (d.readable codec address env).1.registry = r at outcome ⊢
  generalize (d.readable codec address env).2 = outs at outcome ⊢
  have untouched {outs : List DaemonOut} (about : ∀ o ∈ outs, OfClients o) :
      callsOf i outs = [] ∧ .timedOut i ∉ outs :=
    callsOf_ofNoTask (fun o member => (about o member).ofNoTask) i
  cases outcome with
  | gone _ => exact ⟨t, found, .kept rfl rfl (by simp [callsOf]), by simp⟩
  | quiet c outs _ about =>
      rcases untouched about with ⟨noCalls, noTimeout⟩
      exact ⟨t, found, .kept rfl rfl (by simp [noCalls]), noTimeout⟩
  | request c server w invoked wire outs _ _ reported about =>
      have acted : Acted ⟨d.registry, []⟩ w := by
        rcases reported.touched with same | ⟨cb, type, req, usrData, same⟩
        · rw [same]
          exact .none
        · rw [same]
          exact coreCallbacks_acted ..
      rcases acted_step acted found with ⟨t', found', step⟩
      rcases untouched about with ⟨noCalls, noTimeout⟩
      have calls : callsOf i (w.calls.map taskOut ++ .served address invoked wire :: outs) =
          callsOf i (w.calls.map taskOut) := by
        rw [callsOf_append]
        have rest : callsOf i (.served address invoked wire :: outs) = callsOf i outs := rfl
        rw [rest, noCalls, List.append_nil]
      refine ⟨t', found', by rw [calls]; exact step, ?_⟩
      simp [taskOut, noTimeout]

theorem event_step (codec : Codec) {d : Daemon} (alive : d.alive = true) {e : DaemonEvent}
    (noTick : ∀ dt fork, e ≠ .tick dt fork) {i : Nat} {t : TaskObj}
    (found : d.registry.taskList[i]? = some t) :
    ∃ t', ((machine codec).next d e).registry.taskList[i]? = some t' ∧
      TaskStep t t' (callsOf i ((machine codec).emit d e)) ∧
      .timedOut i ∉ (machine codec).emit d e := by
  have away {d' : Daemon} {outs : List DaemonOut} (kept : KeepsTasks d.registry d'.registry)
      (silent : ∀ o ∈ outs, OfClients o) : ∃ t', d'.registry.taskList[i]? = some t' ∧
        TaskStep t t' (callsOf i outs) ∧ .timedOut i ∉ outs := by
    rcases kept i t found with ⟨t', found', status, timer⟩
    rcases callsOf_ofNoTask (fun o member => (silent o member).ofNoTask) i with
      ⟨noCalls, noTimeout⟩
    exact ⟨t', found', .kept status timer (by simp [noCalls]), noTimeout⟩
  simp only [StepMachine.next, StepMachine.emit, machine, step]
  simp only [alive, Bool.not_true, Bool.false_eq_true, if_false]
  cases e with
  | tick dt fork => exact absurd rfl (noTick dt fork)
  | connect pid fd env =>
      rcases d.recvClientConnect_keeps pid fd env with ⟨kept, silent⟩
      exact away kept silent
  | readable address env => exact readable_step codec d address env found
  | clearClients =>
      rcases d.clearClients_registry d.cliList with ⟨same, silent⟩
      exact away (keepsTasks_of_eq same) silent

def OfTask (i : Nat) (o : DaemonOut) : Prop := o = .timedOut i ∨ ∃ call, o = .task i call

theorem tickTask_own {dt : ℚ} {fork : Nat → Int} {i : Nat} {t : TaskObj} :
    ∀ o ∈ (tickTask dt fork i t).2, OfTask i o := by
  rw [tickTask]
  split
  · simp
  · split
    · simp
    · split
      · intro o member
        rcases List.mem_cons.mp member with first | later
        · exact .inl first
        · rcases List.mem_map.mp later with ⟨call, _, rfl⟩
          exact .inr ⟨call, rfl⟩
      · simp

theorem tick_task {d : Daemon} {i : Nat} {t : TaskObj} (dt : ℚ) (fork : Nat → Int)
    (found : d.registry.taskList[i]? = some t) :
    (d.tick dt fork).1.registry.taskList[i]? = some (tickTask dt fork i t).1 ∧
      ∀ o, OfTask i o → (o ∈ (d.tick dt fork).2 ↔ o ∈ (tickTask dt fork i t).2) := by
  have ticked :
      (d.registry.taskList.mapIdx (tickTask dt fork))[i]? = some (tickTask dt fork i t) := by
    rw [List.getElem?_mapIdx, found]
    rfl
  constructor
  · change ((d.registry.taskList.mapIdx (tickTask dt fork)).map Prod.fst)[i]? = _
    rw [List.getElem?_map, ticked]
    rfl
  · intro o about
    constructor
    · intro member
      rcases List.mem_flatten.mp member with ⟨outs, from_task, inside⟩
      rcases List.mem_map.mp from_task with ⟨_, place, rfl⟩
      rcases List.mem_mapIdx.mp place with ⟨j, bound, rfl⟩
      have own : j = i := by
        rcases tickTask_own o inside with rfl | ⟨call, rfl⟩ <;> simpa [OfTask, eq_comm] using about
      subst own
      rw [List.getElem?_eq_getElem bound] at found
      rwa [Option.some.inj found] at inside
    · intro inside
      refine List.mem_flatten.mpr ⟨_, List.mem_map.mpr ⟨_, ?_, rfl⟩, inside⟩
      exact List.mem_of_getElem? ticked

theorem mem_callsOf {i : Nat} {call : SysCall} {outs : List DaemonOut}
    (member : call ∈ callsOf i outs) : .task i call ∈ outs := by
  rcases List.mem_filterMap.mp member with ⟨o, inside, same⟩
  cases o <;> simp_all

theorem step_dead (codec : Codec) {d : Daemon} (dead : d.alive = false) (e : DaemonEvent) :
    (machine codec).next d e = d ∧ (machine codec).emit d e = [] := by
  simp [StepMachine.next, StepMachine.emit, machine, step, dead]

theorem step_alive (codec : Codec) {d : Daemon} (alive : d.alive = true) (e : DaemonEvent) :
    (machine codec).step d e =
      match e with
      | .tick dt fork => d.tick dt fork
      | .connect pid fd env => d.recvClientConnect pid fd env
      | .readable address env => d.readable codec address env
      | .clearClients => d.clearClients d.cliList := by
  cases e <;> simp [machine, step, alive]

theorem tick_own {d : Daemon} {dt : ℚ} {fork : Nat → Int} :
    ∀ o ∈ (d.tick dt fork).2, ∃ i, OfTask i o := by
  intro o member
  rcases List.mem_flatten.mp member with ⟨outs, from_task, inside⟩
  rcases List.mem_map.mp from_task with ⟨_, place, rfl⟩
  rcases List.mem_mapIdx.mp place with ⟨i, _, rfl⟩
  exact ⟨i, tickTask_own o inside⟩

theorem request_outs {w : CoreWorld} {address : Nat} {invoked : Option (Invocation CoreCb Nat)}
    {wire : List UInt8} {outs : List DaemonOut} (about : ∀ o ∈ outs, OfClients o) {o : DaemonOut}
    (member : o ∈ w.calls.map taskOut ++ .served address invoked wire :: outs) :
    (∃ i call, o = .task i call ∧ (i, call) ∈ w.calls) ∨ o = .served address invoked wire ∨
      OfClients o := by
  rcases List.mem_append.mp member with own | later
  · rcases List.mem_map.mp own with ⟨⟨i, call⟩, inside, rfl⟩
    exact .inl ⟨i, call, rfl, inside⟩
  · rcases List.mem_cons.mp later with same | client
    · exact .inr (.inl same)
    · exact .inr (.inr (about o client))

theorem request_task {w : CoreWorld} {address : Nat} {invoked : Option (Invocation CoreCb Nat)}
    {wire : List UInt8} {outs : List DaemonOut} (about : ∀ o ∈ outs, OfClients o) {i : Nat}
    {call : SysCall}
    (member : .task i call ∈ w.calls.map taskOut ++ .served address invoked wire :: outs) :
    (i, call) ∈ w.calls := by
  rcases request_outs about member with ⟨_, _, same, inside⟩ | same | client
  · cases same
    exact inside
  · cases same
  · exact client.elim

theorem served_readable {codec : Codec} {d : Daemon} {e : DaemonEvent} {address : Nat}
    {invoked : Option (Invocation CoreCb Nat)} {wire : List UInt8}
    (served : .served address invoked wire ∈ (machine codec).emit d e) :
    ∃ env c server w, e = .readable address env ∧ d.findClient address = some c ∧
      c.msgServer = some server ∧
      MsgServer.Reported (coreCallbacks env.callback) server ⟨d.registry, []⟩ w invoked ∧
      ((machine codec).next d e).registry = w.registry ∧
      ∀ i call, .task i call ∈ (machine codec).emit d e → (i, call) ∈ w.calls := by
  cases alive : d.alive with
  | false =>
      rw [(step_dead codec alive e).2] at served
      cases served
  | true =>
      simp only [StepMachine.emit, StepMachine.next, step_alive codec alive] at served ⊢
      cases e with
      | tick dt fork =>
          rcases tick_own _ served with ⟨i, same | ⟨call, same⟩⟩ <;> cases same
      | connect pid fd env => exact ((d.recvClientConnect_keeps pid fd env).2 _ served).elim
      | clearClients => exact ((d.clearClients_registry d.cliList).2 _ served).elim
      | readable address' env =>
          have outcome := readable_outcome codec d address' env
          dsimp only at served ⊢
          generalize (d.readable codec address' env).1.registry = r at outcome ⊢
          generalize (d.readable codec address' env).2 = outs at outcome served ⊢
          cases outcome with
          | gone _ => simp at served
          | quiet c outs _ about => exact (about _ served).elim
          | request c server w invoked' wire' outs found present reported about =>
              have same : address = address' ∧ invoked = invoked' := by
                rcases request_outs about served with ⟨_, _, same, _⟩ | same | client
                · cases same
                · cases same
                  exact ⟨rfl, rfl⟩
                · exact client.elim
              rcases same with ⟨rfl, rfl⟩
              exact ⟨env, c, server, w, rfl, found, present, reported, rfl,
                fun i call member => request_task about member⟩

/-- Without time passing it is a served request that does anything to a task. -/
theorem task_call_served {codec : Codec} {d : Daemon} {e : DaemonEvent}
    (noTick : ∀ dt fork, e ≠ .tick dt fork) {i : Nat} {call : SysCall}
    (member : .task i call ∈ (machine codec).emit d e) :
    ∃ address invoked wire env server w, .served address invoked wire ∈ (machine codec).emit d e ∧
      MsgServer.Reported (coreCallbacks env) server ⟨d.registry, []⟩ w invoked ∧
      (i, call) ∈ w.calls := by
  cases alive : d.alive with
  | false =>
      rw [(step_dead codec alive e).2] at member
      cases member
  | true =>
      simp only [StepMachine.emit, step_alive codec alive] at member ⊢
      cases e with
      | tick dt fork => exact absurd rfl (noTick dt fork)
      | connect pid fd env => exact ((d.recvClientConnect_keeps pid fd env).2 _ member).elim
      | clearClients => exact ((d.clearClients_registry d.cliList).2 _ member).elim
      | readable address env =>
          have outcome := readable_outcome codec d address env
          dsimp only at member ⊢
          generalize (d.readable codec address env).1.registry = r at outcome
          generalize (d.readable codec address env).2 = outs at outcome member ⊢
          cases outcome with
          | gone _ => simp at member
          | quiet c outs _ about => exact (about _ member).elim
          | request c server w invoked wire outs _ _ reported about =>
              have served : .served address invoked wire ∈
                  w.calls.map taskOut ++ .served address invoked wire :: outs :=
                List.mem_append_right _ List.mem_cons_self
              exact ⟨address, invoked, wire, env.callback, server, w, served, reported,
                request_task about member⟩

structure SameSize (r r' : Registry) : Prop where
  length : r'.taskList.length = r.taskList.length
  count : r'.s_taskCount = r.s_taskCount

theorem SameSize.of_eq {r r' : Registry} (same : r' = r) : SameSize r r' := by
  subst same
  exact ⟨rfl, rfl⟩

theorem SameSize.trans {r₁ r₂ r₃ : Registry} (first : SameSize r₁ r₂) (second : SameSize r₂ r₃) :
    SameSize r₁ r₃ :=
  ⟨second.length.trans first.length, second.count.trans first.count⟩

theorem setTask_size (d : Daemon) (i : Nat) (t : TaskObj) :
    SameSize d.registry (d.setTask i t).registry := ⟨List.length_set, rfl⟩

theorem stopTaskClient_size (d : Daemon) (i : Nat) (t : TaskObj) :
    SameSize d.registry (d.stopTaskClient i t).1.registry := by
  rw [stopTaskClient]
  cases t.mClient with
  | none => exact setTask_size d i _
  | some address =>
      have same := (d.deleteClient_registry address).1
      exact (SameSize.of_eq same).trans (setTask_size _ i _)

theorem startTaskClient_size (d : Daemon) (i : Nat) (t : TaskObj) (fd : Int) (env : ConnectEnv) :
    SameSize d.registry (d.startTaskClient i t fd env).1.registry := by
  have stopped := d.stopTaskClient_size i t
  rw [startTaskClient]
  generalize d.stopTaskClient i t = stopping at stopped
  rcases stopping with ⟨d', gone⟩
  dsimp only at stopped ⊢
  have same := (d'.newClient_registry fd t.mPid env).1
  generalize d'.newClient fd t.mPid env = made at same
  rcases made with ⟨address, d'', outs⟩
  dsimp only at same
  have size := stopped.trans (.of_eq same)
  cases address with
  | none => exact size
  | some address => exact size.trans (setTask_size d'' i _)

theorem recvClientConnect_size (d : Daemon) (pid fd : Int) (env : ConnectEnv) :
    SameSize d.registry (d.recvClientConnect pid fd env).1.registry := by
  rw [recvClientConnect]
  split
  · split
    · exact .of_eq rfl
    · exact d.startTaskClient_size _ _ fd env
  · have same := (d.newClient_registry fd pid env).1
    generalize d.newClient fd pid env = made at same
    rcases made with ⟨address, d', outs⟩
    cases address with
    | none => exact .of_eq same
    | some address => exact .of_eq same

theorem acted_size {w w' : CoreWorld} (acted : Acted w w') :
    SameSize w.registry w'.registry := by
  have kept (i : Nat) (method : TaskObj → TaskResult) :
      SameSize w.registry (w.actOn i method).registry := by
    rw [CoreWorld.actOn]
    cases w.registry.taskList[i]? with
    | none => exact .of_eq rfl
    | some t => exact ⟨List.length_set, rfl⟩
  cases acted with
  | none => exact .of_eq rfl
  | start i pid => exact kept i _
  | stop i => exact kept i _
  | restart i pid => exact kept i _

theorem size_next (codec : Codec) (d : Daemon) (e : DaemonEvent) :
    SameSize d.registry ((machine codec).next d e).registry := by
  cases alive : d.alive with
  | false =>
      rw [(step_dead codec alive e).1]
      exact .of_eq rfl
  | true =>
      simp only [StepMachine.next, step_alive codec alive]
      cases e with
      | tick dt fork => exact ⟨by simp [tick], rfl⟩
      | connect pid fd env => exact d.recvClientConnect_size pid fd env
      | clearClients => exact .of_eq (d.clearClients_registry d.cliList).1
      | readable address env =>
          have outcome := readable_outcome codec d address env
          dsimp only
          generalize (d.readable codec address env).1.registry = r at outcome ⊢
          generalize (d.readable codec address env).2 = outs at outcome
          cases outcome with
          | gone _ => exact .of_eq rfl
          | quiet _ _ _ _ => exact .of_eq rfl
          | request _ _ w _ _ _ _ _ reported _ =>
              rcases reported.touched with same | ⟨cb, type, req, usrData, same⟩
              · exact .of_eq (congrArg CoreWorld.registry same)
              · rw [same]
                exact acted_size (coreCallbacks_acted env.callback cb type req usrData ⟨_, []⟩)

theorem size_run (codec : Codec) (d : Daemon) (es : List DaemonEvent) :
    SameSize d.registry ((machine codec).run d es).registry :=
  (machine codec).run_invariant_all (fun d' => SameSize d.registry d'.registry)
    (fun d' e same => same.trans (size_next codec d' e)) es (.of_eq rfl)

end Daemon

end TaskMonitor
