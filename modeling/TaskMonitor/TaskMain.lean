import TaskMonitor.Processes
import TaskMonitor.Configuration

/-! `task_main.cpp`: from the configuration file to the daemon's event loop. -/

namespace TaskMonitor

open CText Cjson

structure MainEnv where
  file : ConfigFile
  parse : ParseEnv
  instOk : Bool
  timerOk : Bool
  register : Nat → RegisterEnv

/-- What `main` has done before its event loop runs. Without a loop `task_core_init` is not
called. -/
structure MainResult where
  config : ConfigResult
  init : Option InitResult

def configuredTasks (register : Nat → RegisterEnv) (params : List TaskParm) : List ConfiguredTask :=
  params.mapIdx fun i param => (param, register i)

def taskMain (codec : Codec) (env : MainEnv) (w : ConfigWorld) : Option MainResult := do
  let config ← taskConfigInit codec env.parse env.file w
  if config.ret ≠ 0 then return ⟨config, none⟩
  else if env.instOk then
    return ⟨config, some (taskCoreInit env.timerOk
      (configuredTasks env.register (foreachTaskCalls config.world)))⟩
  else return ⟨config, none⟩

theorem taskMain_started {codec : Codec} {env : MainEnv} {w : ConfigWorld} {r : MainResult}
    {init : InitResult} (ran : taskMain codec env w = some r) (started : r.init = some init)
    (timers : env.timerOk = true) :
    ∃ config, taskConfigInit codec env.parse env.file w = some config ∧ config.ret = 0 ∧
      init = taskCoreInit true
        (configuredTasks env.register (foreachTaskCalls config.world)) := by
  rcases Option.bind_eq_some_iff.mp ran with ⟨config, read, later⟩
  rw [timers] at later
  split at later
  · obtain rfl := Option.some.inj later
    cases started
  · rename_i zero
    split at later
    · obtain rfl := Option.some.inj later
      exact ⟨config, read, not_not.mp zero, (Option.some.inj started).symm⟩
    · obtain rfl := Option.some.inj later
      cases started

/-- The daemon as its event loop takes over. An exception in `task_core_init` has ended it. -/
def InitResult.daemon (init : InitResult) : Daemon :=
  ⟨init.world.registry, [], [], 0, init.ret.isSome⟩

def InitResult.taskCalls (codec : Codec) (init : InitResult) (es : List DaemonEvent) :
    List (Nat × SysCall) :=
  init.world.calls ++ Daemon.taskCalls codec init.daemon es

namespace TaskOp

theorem apply_described (t : TaskObj) {op : TaskOp} (keeps : op ≠ .clear) :
    described (op.apply t).task = described t := by
  have started (t : TaskObj) (pid : Int) : described (t.startTask pid).task = described t := by
    rw [TaskObj.startTask]
    split <;> rfl
  have stopped (t : TaskObj) : described t.stopTask.task = described t := by
    rw [TaskObj.stopTask]
    split
    · rfl
    · change described t.closeReadIo.1 = described t
      rw [TaskObj.closeReadIo]
      split
      · rfl
      · split <;> rfl
  cases op with
  | start pid => exact started t pid
  | stop => exact stopped t
  | restart pid => exact (started _ pid).trans (stopped t)
  | timeout pid => exact (started _ pid).trans (stopped t)
  | clear => exact absurd rfl keeps

end TaskOp

namespace Daemon

theorem described_tasks {n : Nat} {s : Nat → TaskObj} {ops : List (Nat × TaskOp)}
    (makes : tasks.AllSteps (Makes n) s ops) (i : Nat) :
    described (tasks.run s ops i) = described (s i) := by
  induction ops generalizing s with
  | nil => rfl
  | cons e ops ih =>
      rw [StepMachine.run_cons, ih makes.2]
      change described (Function.update s e.1 (e.2.apply (s e.1)).task i) = described (s i)
      by_cases same : i = e.1
      · rw [same, Function.update_self]
        exact TaskOp.apply_described _ makes.1.2
      · rw [Function.update_of_ne same]

theorem described_run (codec : Codec) (d : Daemon) (es : List DaemonEvent) :
    ((machine codec).run d es).registry.taskList.map described =
      d.registry.taskList.map described := by
  rcases run_matched codec d es with ⟨s, ops, before, _, after, _, makes⟩
  apply List.ext_getElem?
  intro i
  rw [List.getElem?_map, List.getElem?_map]
  have lengths := after.1
  cases found : d.registry.taskList[i]? with
  | none =>
      have beyond := List.getElem?_eq_none_iff.mp found
      rw [List.getElem?_eq_none (lengths ▸ beyond)]
  | some t =>
      rcases List.getElem?_eq_some_iff.mp found with ⟨bound, _⟩
      rw [← lengths] at bound
      have found' := List.getElem?_eq_getElem bound
      have core (t t' : TaskObj) (same : t.core = t'.core) : described t = described t' := by
        have fields := congrArg described same
        exact fields
      rw [found']
      apply congrArg some
      calc
        described ((machine codec).run d es).registry.taskList[i] = described (tasks.run s ops i) :=
          core _ _ (after.2 i _ found')
        _ = described (s i) := described_tasks makes i
        _ = described t := (core _ _ (before.2 i t found)).symm

end Daemon

section StartUp

theorem startCalls_before (tasks : List ConfiguredTask) {i j : Nat} (before : i < j) :
    (startCalls tasks j).filterMap (processCall? i) = [] := by
  induction tasks generalizing j with
  | nil => rfl
  | cons task tasks ih =>
      have own := processCall_other (by omega : j ≠ i) (startedTask task).calls
      rw [startCalls, List.filterMap_append, ih (by omega), List.append_nil]
      exact own

theorem startCalls_processes {tasks : List ConfiguredTask} {j : Nat} {task : ConfiguredTask}
    (found : tasks[j]? = some task) (idle : task.2.memory.mStatus = .U) (i : Nat) :
    (startCalls tasks i).filterMap (processCall? (i + j)) = [.fork task.2.fork] := by
  induction tasks generalizing i j with
  | nil => cases found
  | cons head tasks ih =>
      rw [startCalls, List.filterMap_append]
      cases j with
      | zero =>
          obtain rfl := Option.some.inj found
          have own := processCall_self i (startedTask head).calls
          rw [(startedTask_idle idle).2.2.2] at own ⊢
          rw [Nat.add_zero, startCalls_before tasks (Nat.lt_succ_self i), List.append_nil]
          exact own
      | succ j =>
          have other := processCall_other (by omega : i ≠ i + (j + 1)) (startedTask head).calls
          have later := ih found (i + 1)
          rw [Nat.add_right_comm, Nat.add_assoc] at later
          rw [later]
          exact congrArg (· ++ _) other

end StartUp

/-- A task of a configured daemon, over its whole life. The heartbeat alone is its entry's: name,
path and param have been lost. The start-up forks it, and from then on each process of it is killed
and reaped before the next one is forked. -/
structure Supervises (item : Json) (fork : Int) (t : TaskObj) (calls : List SysCall) : Prop where
  lost : t.mName = [] ∧ t.mPath = [] ∧ t.mParam = []
  heartbeat : ∃ heartbeat, numberItem item (text "heartbeat") = some heartbeat ∧
    t.mHeartbeat = UInt32.ofInt (heartbeat.num.tdiv heartbeat.den)
  first : calls.head? = some (.fork fork)
  history : ∃ pids : List Int, calls = pids.flatMap (fun p => [.fork p, .kill p, .waitpid p]) ++
    if t.mStatus = .U then [] else [.fork t.mPid]

theorem described_parsed {item : Json} {param : TaskParm} {t : TaskObj}
    (made : parseTask item blankParm = some param) (fields : described t = configured param) :
    (t.mName = [] ∧ t.mPath = [] ∧ t.mParam = []) ∧
      ∃ heartbeat, numberItem item (text "heartbeat") = some heartbeat ∧
        t.mHeartbeat = UInt32.ofInt (heartbeat.num.tdiv heartbeat.den) := by
  rcases (parseTask_eq_some_iff item blankParm param).mp made with ⟨_, heartbeat, item, rfl⟩
  rcases Prod.mk.inj fields with ⟨name, fields⟩
  rcases Prod.mk.inj fields with ⟨path, fields⟩
  rcases Prod.mk.inj fields with ⟨param, cut⟩
  exact ⟨⟨name, path, param⟩, heartbeat, item, cut⟩

section Runs

variable {tasks : List ConfiguredTask} {init : InitResult}

/-- A registered task, after any run of the daemon. -/
theorem registered_run (world : init.world =
      ⟨⟨tasks.map fun task => (startedTask task).task, UInt32.ofNat tasks.length⟩,
        startCalls tasks 0⟩) (codec : Codec) (es : List DaemonEvent) {i : Nat}
    {task : ConfiguredTask} (found : tasks[i]? = some task) (idle : task.2.memory.mStatus = .U) :
    ∃ t, ((Daemon.machine codec).run init.daemon es).registry.taskList[i]? = some t ∧
      described t = configured task.1 ∧
      ∃ pids : List Int, (init.taskCalls codec es).filterMap (processCall? i) =
          pids.flatMap (fun p => [.fork p, .kill p, .waitpid p]) ++
            (if t.mStatus = .U then [] else [.fork t.mPid]) ∧
        ((init.taskCalls codec es).filterMap (processCall? i)).head? =
          some (.fork task.2.fork) := by
  have registry : init.daemon.registry.taskList =
      tasks.map fun task => (startedTask task).task := by
    change init.world.registry.taskList = _
    rw [world]
  have begins : init.daemon.registry.taskList[i]? = some (startedTask task).task := by
    rw [registry, List.getElem?_map, found]
    rfl
  have inside : i < ((Daemon.machine codec).run init.daemon es).registry.taskList.length := by
    rcases List.getElem?_eq_some_iff.mp begins with ⟨bound, _⟩
    rwa [(Daemon.size_run codec init.daemon es).length]
  have found' := List.getElem?_eq_getElem inside
  generalize ((Daemon.machine codec).run init.daemon es).registry.taskList[i] = t at found'
  refine ⟨t, found', ?_, ?_⟩
  · have same := congrArg (·[i]?) (Daemon.described_run codec init.daemon es)
    simp only [List.getElem?_map, found', begins, Option.map_some] at same
    exact (Option.some.inj same).trans (described_startedTask task)
  · rcases startedTask_idle idle with ⟨running, _, pid, _⟩
    have first := startCalls_processes found idle 0
    rw [Nat.zero_add] at first
    have whole : (init.taskCalls codec es).filterMap (processCall? i) =
        [.fork task.2.fork] ++
          (Daemon.taskCalls codec init.daemon es).filterMap (processCall? i) := by
      rw [InitResult.taskCalls, List.filterMap_append, world, first]
    have holds : processOf (startedTask task).task = some task.2.fork := by
      rw [processOf, running, pid]
      rfl
    rcases Daemon.history_from codec init.daemon es begins found' with ⟨pids, history⟩
    rw [holds] at history
    exact ⟨pids, whole.trans history, by rw [whole]; rfl⟩

end Runs

/-- From the bytes of an accepted file, through any run of the daemon: there is a task for each
entry of the file, in its order, supervised from the start-up on. It has the heartbeat of its entry,
and no string of it. -/
theorem configured_tasks_supervised (codec : Codec) {env : MainEnv} {w : ConfigWorld}
    {r : MainResult} {init : InitResult} (ran : taskMain codec env w = some r)
    (started : r.init = some init) (timers : env.timerOk = true)
    (works : ∀ i, (env.register i).timerOk = true)
    (idle : ∀ i, (env.register i).memory.mStatus = .U) (es : List DaemonEvent) :
    ∃ readLen root list, codec.parse (env.file.buffer readLen) = some root ∧
      getObjectItem root (text "tasks") = some list ∧
      ((Daemon.machine codec).run init.daemon es).registry.taskList.length =
        list.children.length ∧
      ∀ i item, list.children[i]? = some item → ∃ t,
        ((Daemon.machine codec).run init.daemon es).registry.taskList[i]? = some t ∧
        Supervises item (env.register i).fork t
          ((init.taskCalls codec es).filterMap (processCall? i)) := by
  rcases taskMain_started ran started timers with ⟨config, read, zero, rfl⟩
  rcases taskConfigInit_calls read zero with ⟨readLen, root, list, parsed, array, entries⟩
  generalize foreachTaskCalls config.world = params at entries
  let tasks := configuredTasks env.register params
  have created : ∀ task ∈ tasks, task.2.timerOk = true := by
    intro task member
    rcases List.mem_mapIdx.mp member with ⟨i, _, rfl⟩
    exact works i
  have world := taskCoreInit_world created
  refine ⟨readLen, root, list, parsed, array, ?_, ?_⟩
  · have registered : (taskCoreInit true tasks).daemon.registry.taskList.length = tasks.length := by
      change (taskCoreInit true tasks).world.registry.taskList.length = _
      rw [world, List.length_map]
    rw [(Daemon.size_run codec _ es).length, registered, entries.length_eq]
    exact List.length_mapIdx
  · intro i item found
    rcases List.getElem?_eq_some_iff.mp found with ⟨bound, same⟩
    have bound' : i < params.length := entries.length_eq ▸ bound
    have made : parseTask item blankParm = some params[i] := by
      rw [← same]
      exact List.forall₂_iff_get.mp entries |>.2 i bound bound'
    have task : tasks[i]? = some (params[i], env.register i) := by
      simp only [tasks, configuredTasks, List.getElem?_mapIdx, List.getElem?_eq_getElem bound',
        Option.map_some]
    rcases registered_run world codec es task (idle i) with
      ⟨t, found', fields, pids, history, first⟩
    rcases described_parsed made fields with ⟨lost, heartbeat⟩
    exact ⟨t, found', lost, heartbeat, first, pids, history⟩

def twoTasksEnv : MainEnv :=
  let contents := (textCodec.print (configOf (.array twoEntries))).bytes
  { file := ⟨true, contents, UInt32.ofNat contents.length, true, [⟨contents.length, false⟩]⟩
    parse := ⟨true, fun _ => true⟩
    instOk := true
    timerOk := true
    register := fun i => ⟨idleTask, 3, true, 40 + i⟩ }

def twoTasksInit : Option InitResult :=
  (taskMain textCodec twoTasksEnv ⟨⟨0, 0, []⟩, 0, fun _ none => absurd none List.not_mem_nil⟩).bind
    MainResult.init

set_option maxRecDepth 2000 in
theorem configured_tasks_supervised_two :
    ∃ init readLen root list, twoTasksInit = some init ∧
      textCodec.parse (twoTasksEnv.file.buffer readLen) = some root ∧
      getObjectItem root (text "tasks") = some list ∧
      ((Daemon.machine textCodec).run init.daemon [.tick 9 fun _ => 43]).registry.taskList.length =
        list.children.length ∧
      ∀ i item, list.children[i]? = some item → ∃ t,
        ((Daemon.machine textCodec).run init.daemon [.tick 9 fun _ => 43]).registry.taskList[i]? =
          some t ∧
        Supervises item (twoTasksEnv.register i).fork t
          ((init.taskCalls textCodec [.tick 9 fun _ => 43]).filterMap (processCall? i)) := by
  have starts : twoTasksInit.isSome = true := by decide +kernel
  rcases Option.isSome_iff_exists.mp starts with ⟨init, started⟩
  rcases Option.bind_eq_some_iff.mp started with ⟨r, ran, init'⟩
  rcases configured_tasks_supervised textCodec ran init' rfl (fun _ => rfl) (fun _ => rfl)
    [.tick 9 fun _ => 43] with ⟨readLen, root, list, rest⟩
  exact ⟨init, readLen, root, list, started, rest⟩

end TaskMonitor
