import TaskMonitor.DaemonSteps
import TaskMonitor.Library.Simulation

/-! What the daemon does for its tasks, apart from its connections: time passes for them, and
commands reach them. -/

namespace TaskMonitor

open CText Cjson

def TaskObj.detached (t : TaskObj) : TaskObj := { t with mClient := none }

def TaskResult.detached (r : TaskResult) : TaskResult := { r with task := r.task.detached }

def Registry.detached (r : Registry) : Registry :=
  { r with taskList := r.taskList.map TaskObj.detached }

def CoreWorld.detached (w : CoreWorld) : CoreWorld := { w with registry := w.registry.detached }

namespace TaskObj

theorem startTask_detached (t : TaskObj) (pid : Int) :
    t.detached.startTask pid = (t.startTask pid).detached := by
  by_cases idle : t.mStatus = .U
  · have idle' : t.detached.mStatus = .U := idle
    rw [startTask_of_idle idle, startTask_of_idle idle']
    rfl
  · have active' : t.detached.mStatus ≠ .U := idle
    rw [startTask_of_active idle, startTask_of_active active']
    rfl

theorem closeReadIo_detached (t : TaskObj) :
    t.detached.closeReadIo = (t.closeReadIo.1.detached, t.closeReadIo.2) := by
  rcases t with ⟨_, _, _, _, _, _, _, _, readIo, clientFd⟩
  cases readIo with
  | none => rfl
  | some io => by_cases positive : clientFd > 0 <;> simp [closeReadIo, detached, positive]

theorem stopTask_detached (t : TaskObj) : t.detached.stopTask = t.stopTask.detached := by
  by_cases idle : t.mStatus = .U
  · have idle' : t.detached.mStatus = .U := idle
    rw [stopTask_of_idle idle, stopTask_of_idle idle']
    rfl
  · have active' : t.detached.mStatus ≠ .U := idle
    rw [stopTask, stopTask, if_neg idle, if_neg active', closeReadIo_detached]
    rfl

theorem restartTask_detached (t : TaskObj) (pid : Int) :
    t.detached.restartTask pid = (t.restartTask pid).detached := by
  have started : t.stopTask.detached.task.startTask pid =
      (t.stopTask.task.startTask pid).detached := t.stopTask.task.startTask_detached pid
  simp only [restartTask, stopTask_detached, started]
  rfl

end TaskObj

theorem demandedCall_detached {fork action : Int} {method : TaskObj → TaskResult}
    (demanded : demandedCall fork action = some method) (t : TaskObj) :
    method t.detached = (method t).detached := by
  rw [demandedCall] at demanded
  split at demanded
  · obtain rfl := Option.some.inj demanded
    exact t.startTask_detached fork
  split at demanded
  · obtain rfl := Option.some.inj demanded
    exact t.stopTask_detached
  split at demanded
  · obtain rfl := Option.some.inj demanded
    exact t.restartTask_detached fork
  · cases demanded

theorem selectTask_detached (tasks : List TaskObj) (pid : UInt32) (name : CharArray 32) :
    selectTask (tasks.map TaskObj.detached) pid name = selectTask tasks pid name := by
  rw [selectTask, selectTask, List.findIdx?_map]
  rfl

theorem actOn_detached {r : Registry} {method : TaskObj → TaskResult}
    (commutes : ∀ t : TaskObj, method t.detached = (method t).detached) (i : Nat) :
    CoreWorld.actOn ⟨r.detached, []⟩ i method = (CoreWorld.actOn ⟨r, []⟩ i method).detached := by
  have found : r.detached.taskList[i]? = r.taskList[i]?.map TaskObj.detached := List.getElem?_map
  rw [CoreWorld.actOn, CoreWorld.actOn]
  cases same : r.taskList[i]? with
  | none =>
      simp only [found, same, Option.map_none]
      rfl
  | some t =>
      simp only [found, same, Option.map_some, commutes]
      simp [TaskResult.detached, CoreWorld.detached, Registry.detached, List.map_set]

inductive SupervisorEvent where
  | tick (dt : ℚ) (fork : Nat → Int)
  | command (req : TaskActionReq) (fork : Int)

namespace Daemon

def taskCall? : DaemonOut → Option (Nat × SysCall)
  | .task i call => some (i, call)
  | _ => none

theorem taskCall_ofClients {outs : List DaemonOut} (about : ∀ o ∈ outs, OfClients o) :
    outs.filterMap taskCall? = [] := by
  apply List.filterMap_eq_nil_iff.mpr
  intro o member
  have client := about o member
  cases o <;> first | rfl | exact client.elim

theorem taskCall_map (i : Nat) (calls : List SysCall) :
    (calls.map (DaemonOut.task i)).filterMap taskCall? = calls.map (Prod.mk i) := by
  rw [List.filterMap_map]
  exact congrFun (List.filterMap_eq_map (f := Prod.mk i)) calls

def taskCalls (codec : Codec) (d : Daemon) (es : List DaemonEvent) : List (Nat × SysCall) :=
  ((machine codec).trace d es).filterMap taskCall?

theorem taskCall_request {w : CoreWorld} {address : Nat} {invoked : Option (Invocation CoreCb Nat)}
    {wire : List UInt8} {outs : List DaemonOut} (about : ∀ o ∈ outs, OfClients o) :
    (w.calls.map taskOut ++ .served address invoked wire :: outs).filterMap taskCall? =
      w.calls := by
  have own : (w.calls.map taskOut).filterMap taskCall? = w.calls := by
    rw [List.filterMap_map]
    exact List.filterMap_some
  have rest : (.served address invoked wire :: outs).filterMap taskCall? = [] := by
    rw [List.filterMap_cons]
    exact taskCall_ofClients about
  rw [List.filterMap_append, own, rest, List.append_nil]

end Daemon

/-- A supervisor of tasks. Time passes for each of them, and a command is carried out on the task
that it selects. -/
def supervise (r : Registry) : SupervisorEvent → Registry × List (Nat × SysCall)
  | .tick dt fork =>
      let ticked := r.taskList.mapIdx (Daemon.tickTask dt fork)
      ({ r with taskList := ticked.map Prod.fst },
        (ticked.map Prod.snd).flatten.filterMap Daemon.taskCall?)
  | .command req fork =>
      let carriedOut := do
        let i ← selectTask r.taskList req.pid req.name
        let method ← demandedCall fork req.action
        some (CoreWorld.actOn ⟨r, []⟩ i method)
      let w := carriedOut.getD ⟨r, []⟩
      (w.registry, w.calls)

def supervisor : StepMachine Registry SupervisorEvent (Nat × SysCall) := ⟨supervise⟩

theorem processTaskAction_supervised (env : CbEnv) (req : TaskActionReq) (r : Registry) :
    let w := (processTaskAction env req ⟨r, []⟩).world
    supervise r.detached (.command req env.fork) = (w.registry.detached, w.calls) := by
  intro w
  have selected := selectTask_detached r.taskList req.pid req.name
  change selectTask r.detached.taskList req.pid req.name = _ at selected
  simp only [supervise, selected]
  cases selects : selectTask r.taskList req.pid req.name with
  | none =>
      simp only [w, processTaskAction, selects]
      rfl
  | some i =>
      simp only [w, processTaskAction_makes (w := ⟨r, []⟩) selects]
      cases demanded : demandedCall env.fork req.action with
      | none => rfl
      | some method =>
          have commutes := actOn_detached (r := r) (demandedCall_detached demanded) i
          simp only [Option.bind_eq_bind, Option.bind_some, Option.getD_some, Option.elim_some,
            commutes]
          rfl

namespace Daemon

theorem tickTask_detached (dt : ℚ) (fork : Nat → Int) (i : Nat) (t : TaskObj) :
    tickTask dt fork i t.detached =
      ((tickTask dt fork i t).1.detached, (tickTask dt fork i t).2) := by
  have timer : t.detached.mTimer = t.mTimer := rfl
  rw [tickTask, tickTask, timer]
  cases t.mTimer with
  | none => rfl
  | some timer =>
      dsimp only
      cases timer.countdown with
      | none => rfl
      | some left =>
          dsimp only
          by_cases due : left ≤ dt
          · rw [if_pos due, if_pos due]
            have restarted := { t with mTimer := some (rearm timer) }.restartTask_detached (fork i)
            exact congrArg (fun r : TaskResult =>
              (r.task, DaemonOut.timedOut i :: r.calls.map (DaemonOut.task i))) restarted
          · rw [if_neg due, if_neg due]
            rfl

theorem tick_supervised (d : Daemon) (dt : ℚ) (fork : Nat → Int) :
    supervise d.registry.detached (.tick dt fork) =
      ((d.tick dt fork).1.registry.detached, (d.tick dt fork).2.filterMap taskCall?) := by
  have ticked : d.registry.detached.taskList.mapIdx (tickTask dt fork) =
      (d.registry.taskList.mapIdx (tickTask dt fork)).map fun r => (r.1.detached, r.2) := by
    apply List.ext_getElem?
    intro i
    simp only [Registry.detached, List.getElem?_mapIdx, List.getElem?_map, Option.map_map]
    congr 1
    funext t
    exact tickTask_detached dt fork i t
  have tasks : (d.registry.detached.taskList.mapIdx (tickTask dt fork)).map Prod.fst =
      ((d.registry.taskList.mapIdx (tickTask dt fork)).map Prod.fst).map TaskObj.detached := by
    rw [ticked, List.map_map, List.map_map]
    rfl
  have calls : (d.registry.detached.taskList.mapIdx (tickTask dt fork)).map Prod.snd =
      (d.registry.taskList.mapIdx (tickTask dt fork)).map Prod.snd := by
    rw [ticked, List.map_map]
    rfl
  simp only [supervise, tick, tasks, calls]
  rfl

theorem setTask_detached {d : Daemon} {i : Nat} {t t' : TaskObj}
    (found : d.registry.taskList[i]? = some t) (same : t'.detached = t.detached) :
    (d.setTask i t').registry.detached = d.registry.detached := by
  rcases List.getElem?_eq_some_iff.mp found with ⟨bound, here⟩
  have inside : i < (d.registry.taskList.map TaskObj.detached).length := by simpa using bound
  have stored : (d.registry.taskList.map TaskObj.detached)[i] = t.detached := by simp [here]
  have tasks : (d.registry.taskList.set i t').map TaskObj.detached =
      d.registry.taskList.map TaskObj.detached := by
    rw [List.map_set, same, ← stored]
    exact List.set_getElem_self inside
  exact congrArg (Registry.mk · d.registry.s_taskCount) tasks

theorem stopTaskClient_detached {d : Daemon} {i : Nat} {t : TaskObj}
    (found : d.registry.taskList[i]? = some t) :
    (d.stopTaskClient i t).1.registry.detached = d.registry.detached := by
  have same : t.stopTaskClient.task.detached = t.detached := by
    rw [t.stopTaskClient_task]
    rfl
  rw [stopTaskClient]
  cases t.mClient with
  | none => exact setTask_detached found same
  | some address =>
      have kept := (d.deleteClient_registry address).1
      exact (setTask_detached (kept ▸ found) same).trans (congrArg Registry.detached kept)

theorem startTaskClient_detached {d : Daemon} {i : Nat} {t : TaskObj}
    (found : d.registry.taskList[i]? = some t) (fd : Int) (env : ConnectEnv) :
    (d.startTaskClient i t fd env).1.registry.detached = d.registry.detached := by
  have stopped := stopTaskClient_detached found
  rcases stopTaskClient_keeps found with ⟨_, present, _⟩
  rw [startTaskClient]
  generalize d.stopTaskClient i t = r at stopped present
  rcases r with ⟨d', gone⟩
  dsimp only at stopped present ⊢
  have same := (d'.newClient_registry fd t.mPid env).1
  generalize d'.newClient fd t.mPid env = made at same
  rcases made with ⟨address, d'', outs⟩
  dsimp only at same
  cases address with
  | none => exact (congrArg Registry.detached same).trans stopped
  | some address =>
      rw [← same] at present
      calc
        (d''.setTask i { t.stopTaskClient.task with mClient := some address }).registry.detached =
            d''.registry.detached := setTask_detached present rfl
        _ = d'.registry.detached := congrArg Registry.detached same
        _ = d.registry.detached := stopped

theorem recvClientConnect_detached (d : Daemon) (pid fd : Int) (env : ConnectEnv) :
    (d.recvClientConnect pid fd env).1.registry.detached = d.registry.detached := by
  rw [recvClientConnect]
  split
  · split
    · rfl
    · rename_i t found
      exact startTaskClient_detached found fd env
  · have same := (d.newClient_registry fd pid env).1
    generalize d.newClient fd pid env = made at same
    rcases made with ⟨address, d', outs⟩
    cases address with
    | none => exact congrArg Registry.detached same
    | some address => exact congrArg Registry.detached same

def command? (env : CbEnv) : DaemonOut → Option SupervisorEvent
  | .served _ (some ⟨.processTaskAction, .taskAction, req, _, _⟩) _ => some (.command req env.fork)
  | _ => none

def drives (codec : Codec) (d : Daemon) (e : DaemonEvent) : List SupervisorEvent :=
  match e with
  | .tick dt fork => if d.alive then [.tick dt fork] else []
  | .readable _ env => ((machine codec).emit d e).filterMap (command? env.callback)
  | _ => []

def driving (codec : Codec) (d : Daemon) (es : List DaemonEvent) : List SupervisorEvent :=
  ((machine codec).looking (drives codec)).trace d es

theorem command_ofClients {env : CbEnv} {outs : List DaemonOut} (about : ∀ o ∈ outs, OfClients o) :
    outs.filterMap (command? env) = [] := by
  apply List.filterMap_eq_nil_iff.mpr
  intro o member
  have client := about o member
  cases o <;> first | rfl | exact client.elim

theorem command_request {env : CbEnv} {w : CoreWorld} {address : Nat}
    {invoked : Option (Invocation CoreCb Nat)} {wire : List UInt8} {outs : List DaemonOut}
    (about : ∀ o ∈ outs, OfClients o) :
    (w.calls.map taskOut ++ .served address invoked wire :: outs).filterMap (command? env) =
      (command? env (.served address invoked wire)).toList := by
  have own : (w.calls.map taskOut).filterMap (command? env) = [] := by
    rw [List.filterMap_map]
    exact List.filterMap_eq_nil_iff.mpr fun _ _ => rfl
  rw [List.filterMap_append, own, List.nil_append, List.filterMap_cons, command_ofClients about]
  cases command? env (.served address invoked wire) <;> rfl

theorem reported_supervised {env : CbEnv} {server : MsgServer CoreCb Nat} {r : Registry}
    {w : CoreWorld} {invoked : Option (Invocation CoreCb Nat)}
    (reported : MsgServer.Reported (coreCallbacks env) server ⟨r, []⟩ w invoked) (address : Nat)
    (wire : List UInt8) :
    supervisor.run r.detached (command? env (.served address invoked wire)).toList =
        w.registry.detached ∧
      supervisor.trace r.detached (command? env (.served address invoked wire)).toList =
        w.calls := by
  have still {w : CoreWorld} (same : w = ⟨r, []⟩) :
      supervisor.run r.detached [] = w.registry.detached ∧
        supervisor.trace r.detached [] = w.calls := by
    rw [same]
    exact ⟨rfl, rfl⟩
  cases invoked with
  | none => exact still reported
  | some inv =>
      rcases inv with ⟨cb, type, req, usrData, ret⟩
      rcases reported with ⟨_, _, rfl⟩
      have blank : TaskSingleReq := ⟨0, .zero 32 nameSize_pos⟩
      cases cb with
      | processHeartbeat =>
          cases type with
          | heartbeat => exact still (reading_callbacks env usrData blank ⟨r, []⟩).1
          | _ => exact still rfl
      | processGetAllTask =>
          cases type with
          | queryAll => exact still (reading_callbacks env usrData blank ⟨r, []⟩).2.1
          | _ => exact still rfl
      | processGetSingleTask =>
          cases type with
          | queryTask => exact still (reading_callbacks env usrData req ⟨r, []⟩).2.2
          | _ => exact still rfl
      | processTaskAction =>
          cases type with
          | taskAction =>
              have carriedOut := processTaskAction_supervised env req r
              constructor
              · exact congrArg Prod.fst carriedOut
              · exact (supervisor.trace_one _ _).trans (congrArg Prod.snd carriedOut)
          | _ => exact still rfl

theorem readable_supervised (codec : Codec) (d : Daemon) (address : Nat) (env : ReadEnv) :
    let commands := (d.readable codec address env).2.filterMap (command? env.callback)
    (d.readable codec address env).1.registry.detached =
        supervisor.run d.registry.detached commands ∧
      (d.readable codec address env).2.filterMap taskCall? =
        supervisor.trace d.registry.detached commands := by
  intro commands
  have outcome := readable_outcome codec d address env
  simp only [commands]
  generalize (d.readable codec address env).1.registry = r at outcome ⊢
  generalize (d.readable codec address env).2 = outs at outcome ⊢
  cases outcome with
  | gone _ => exact ⟨rfl, rfl⟩
  | quiet c outs _ about =>
      rw [taskCall_ofClients about, command_ofClients about]
      exact ⟨rfl, rfl⟩
  | request c server w invoked wire outs _ _ reported about =>
      rcases reported_supervised reported address wire with ⟨state, calls⟩
      rw [taskCall_request about, command_request about]
      exact ⟨state.symm, calls.symm⟩

/-- Step by step the daemon does for its tasks what the supervisor does. -/
theorem supervises (codec : Codec) :
    StepMachine.Translation ((machine codec).seeing taskCall?) supervisor (·.registry.detached)
      (drives codec) := by
  have each (d : Daemon) (e : DaemonEvent) :
      ((machine codec).next d e).registry.detached =
          supervisor.run d.registry.detached (drives codec d e) ∧
        ((machine codec).emit d e).filterMap taskCall? =
          supervisor.trace d.registry.detached (drives codec d e) := by
    by_cases alive : d.alive = true
    · have step := step_alive codec alive e
      cases e with
      | tick dt fork =>
          have ticked := d.tick_supervised dt fork
          simp only [StepMachine.next, StepMachine.emit, step, drives, alive, if_true]
          constructor
          · exact (congrArg Prod.fst ticked).symm
          · rw [StepMachine.trace_one]
            exact (congrArg Prod.snd ticked).symm
      | connect pid fd env =>
          simp only [StepMachine.next, StepMachine.emit, step]
          exact ⟨d.recvClientConnect_detached pid fd env,
            taskCall_ofClients (d.recvClientConnect_keeps pid fd env).2⟩
      | readable address env =>
          simp only [StepMachine.next, StepMachine.emit, step, drives]
          exact d.readable_supervised codec address env
      | clearClients =>
          rcases d.clearClients_registry d.cliList with ⟨same, silent⟩
          simp only [StepMachine.next, StepMachine.emit, step]
          exact ⟨congrArg Registry.detached same, taskCall_ofClients silent⟩
    -- a daemon that has ended does nothing and drives nothing
    · have dead : d.alive = false := by simpa using alive
      rcases step_dead codec dead e with ⟨same, silent⟩
      have idle : drives codec d e = [] := by
        cases e with
        | tick dt fork => simp [drives, dead]
        | readable address env =>
            simp only [drives, silent]
            rfl
        | _ => rfl
      rw [same, silent, idle]
      exact ⟨rfl, rfl⟩
  exact ⟨fun d e => (each d e).1, fun d e => (each d e).2⟩

/-- In every run of the daemon its tasks, apart from their connections, and the calls that are made
on them are those of the supervisor that the passing time and the accepted commands drive. -/
theorem daemon_supervises (codec : Codec) (d : Daemon) (es : List DaemonEvent) :
    ((machine codec).run d es).registry.detached =
        supervisor.run d.registry.detached (driving codec d es) ∧
      taskCalls codec d es = supervisor.trace d.registry.detached (driving codec d es) := by
  have translated := (supervises codec).run d es
  rw [StepMachine.seeing_run, StepMachine.seeing_trace] at translated
  exact translated

end Daemon

end TaskMonitor
