import TaskMonitor.StoppedTasks
import TaskMonitor.Reaping
import TaskMonitor.Supervisor
import TaskMonitor.Library.Leases

/-! The daemon's runs as runs of operations on its tasks, and its processes over whole runs. -/

namespace TaskMonitor

open CText Cjson

/-- A task without what connections and the clock change of it. -/
def TaskObj.core (t : TaskObj) : TaskObj := { t with mClient := none, mTimer := none }

namespace TaskObj

theorem of_core {t t' : TaskObj} (same : t.core = t'.core) :
    t.mStatus = t'.mStatus ∧ t.mPid = t'.mPid := by
  have status := congrArg TaskObj.mStatus same
  have pid := congrArg TaskObj.mPid same
  exact ⟨status, pid⟩

theorem closeReadIo_core (t : TaskObj) :
    t.core.closeReadIo = (t.closeReadIo.1.core, t.closeReadIo.2) := by
  rcases t with ⟨_, _, _, _, _, _, _, _, readIo, clientFd⟩
  cases readIo with
  | none => rfl
  | some io =>
      by_cases positive : clientFd > 0 <;> simp [closeReadIo, core, positive]

theorem startTask_core (t : TaskObj) (pid : Int) :
    (t.core.startTask pid).task.core = (t.startTask pid).task.core ∧
      (t.core.startTask pid).calls = (t.startTask pid).calls := by
  by_cases idle : t.mStatus = .U <;> simp [startTask, core, idle]

theorem stopTask_core (t : TaskObj) :
    t.core.stopTask.task.core = t.stopTask.task.core ∧
      t.core.stopTask.calls = t.stopTask.calls := by
  by_cases idle : t.mStatus = .U
  · have idle' : t.core.mStatus = .U := idle
    rw [stopTask_of_idle idle, stopTask_of_idle idle']
    exact ⟨rfl, rfl⟩
  · have active' : t.core.mStatus ≠ .U := idle
    rw [stopTask, stopTask, if_neg idle, if_neg active', closeReadIo_core]
    exact ⟨rfl, rfl⟩

theorem startTask_congr {t t' : TaskObj} (same : t.core = t'.core) (pid : Int) :
    (t.startTask pid).task.core = (t'.startTask pid).task.core ∧
      (t.startTask pid).calls = (t'.startTask pid).calls := by
  rcases t.startTask_core pid with ⟨task, calls⟩
  rcases t'.startTask_core pid with ⟨task', calls'⟩
  rw [← task, ← calls, same]
  exact ⟨task', calls'⟩

theorem stopTask_congr {t t' : TaskObj} (same : t.core = t'.core) :
    t.stopTask.task.core = t'.stopTask.task.core ∧ t.stopTask.calls = t'.stopTask.calls := by
  rcases t.stopTask_core with ⟨task, calls⟩
  rcases t'.stopTask_core with ⟨task', calls'⟩
  rw [← task, ← calls, same]
  exact ⟨task', calls'⟩

theorem restartTask_congr {t t' : TaskObj} (same : t.core = t'.core) (pid : Int) :
    (t.restartTask pid).task.core = (t'.restartTask pid).task.core ∧
      (t.restartTask pid).calls = (t'.restartTask pid).calls := by
  rcases stopTask_congr same with ⟨stopped, calls⟩
  rcases startTask_congr stopped pid with ⟨started, calls'⟩
  exact ⟨started, congrArg₂ (· ++ ·) calls calls'⟩

end TaskObj

namespace TaskOp

theorem apply_congr {t t' : TaskObj} (same : t.core = t'.core) {op : TaskOp}
    (keeps : op ≠ .clear) :
    (op.apply t).task.core = (op.apply t').task.core ∧
      (op.apply t).calls = (op.apply t').calls := by
  cases op with
  | start pid => exact TaskObj.startTask_congr same pid
  | stop => exact TaskObj.stopTask_congr same
  | restart pid => exact TaskObj.restartTask_congr same pid
  | timeout pid => exact TaskObj.restartTask_congr same pid
  | clear => exact absurd rfl keeps

end TaskOp

namespace Daemon

def cores (d : Daemon) : List TaskObj := d.registry.taskList.map TaskObj.core

theorem cores_of_eq {d d' : Daemon} (same : d'.registry = d.registry) : d'.cores = d.cores := by
  rw [cores, cores, same]

theorem cores_of_detached {d d' : Daemon} (same : d'.registry.detached = d.registry.detached) :
    d'.cores = d.cores := by
  have through (d : Daemon) : d.cores = d.registry.detached.taskList.map TaskObj.core := by
    rw [cores, Registry.detached, List.map_map]
    rfl
  rw [through, through, same]

/-- A family of tasks that the daemon's tasks are, but for their connections and timers. -/
def Mirrors (n : Nat) (d : Daemon) (s : Nat → TaskObj) : Prop :=
  d.registry.taskList.length = n ∧
    ∀ i t, d.registry.taskList[i]? = some t → t.core = (s i).core

theorem Mirrors.of_cores {n : Nat} {d d' : Daemon} {s : Nat → TaskObj} (mirrors : Mirrors n d s)
    (same : d'.cores = d.cores) : Mirrors n d' s := by
  constructor
  · have lengths := congrArg List.length same
    rw [cores, cores, List.length_map, List.length_map] at lengths
    exact lengths.trans mirrors.1
  · intro i t found
    have core : d'.cores[i]? = some t.core := by rw [cores, List.getElem?_map, found]; rfl
    rw [same, cores, List.getElem?_map] at core
    rcases Option.map_eq_some_iff.mp core with ⟨t', found', equal⟩
    exact equal.symm.trans (mirrors.2 i t' found')

/-- Operations that a daemon with so many tasks makes: it clears none of them. -/
def Makes (n : Nat) (_ : Nat → TaskObj) (e : Nat × TaskOp) : Prop := e.1 < n ∧ e.2 ≠ .clear

def Matched (n : Nat) (s : Nat → TaskObj) (r : Daemon × List DaemonOut) : Prop :=
  ∃ ops, Mirrors n r.1 (tasks.run s ops) ∧ r.2.filterMap taskCall? = tasks.trace s ops ∧
    tasks.AllSteps (Makes n) s ops

theorem matched_away {n : Nat} {d d' : Daemon} {s : Nat → TaskObj} (mirrors : Mirrors n d s)
    (same : d'.cores = d.cores) {outs : List DaemonOut} (about : ∀ o ∈ outs, OfClients o) :
    Matched n s (d', outs) :=
  ⟨[], mirrors.of_cores same, taskCall_ofClients about, trivial⟩

theorem mirrors_set {n : Nat} {d d' : Daemon} {s : Nat → TaskObj} (mirrors : Mirrors n d s)
    {i : Nat} {t t' : TaskObj} (set : d'.registry.taskList = d.registry.taskList.set i t)
    (same : t.core = t'.core) : Mirrors n d' (Function.update s i t') := by
  constructor
  · rw [set, List.length_set]
    exact mirrors.1
  · intro j task found
    rw [set, List.getElem?_set] at found
    by_cases here : i = j
    · subst here
      rw [Function.update_self, ← same]
      split at found
      · split at found
        · rw [Option.some.inj found]
        · cases found
      · rename_i differs
        exact absurd rfl differs
    · rw [Function.update_of_ne (Ne.symm here)]
      rw [if_neg here] at found
      exact mirrors.2 j task found

theorem mirrors_op {n : Nat} {d d' : Daemon} {s : Nat → TaskObj} (mirrors : Mirrors n d s) {i : Nat}
    {t : TaskObj} (found : d.registry.taskList[i]? = some t) {op : TaskOp} (keeps : op ≠ .clear)
    (set : d'.registry.taskList = d.registry.taskList.set i (op.apply t).task) :
    Mirrors n d' (tasks.run s [(i, op)]) ∧
      tasks.trace s [(i, op)] = (op.apply t).calls.map (Prod.mk i) ∧
      tasks.AllSteps (Makes n) s [(i, op)] := by
  rcases TaskOp.apply_congr (mirrors.2 i t found) keeps with ⟨task, calls⟩
  rcases List.getElem?_eq_some_iff.mp found with ⟨bound, _⟩
  refine ⟨mirrors_set mirrors set task, ?_, ⟨mirrors.1 ▸ bound, keeps⟩, trivial⟩
  rw [StepMachine.trace_one, calls]
  rfl

theorem actOn_matched {n : Nat} {d d' : Daemon} {s : Nat → TaskObj} (mirrors : Mirrors n d s)
    (i : Nat) (op : TaskOp) (keeps : op ≠ .clear) {w : CoreWorld}
    (acted : w = CoreWorld.actOn ⟨d.registry, []⟩ i (TaskOp.apply · op))
    (after : d'.registry = w.registry) :
    ∃ ops, Mirrors n d' (tasks.run s ops) ∧ w.calls = tasks.trace s ops ∧
      tasks.AllSteps (Makes n) s ops := by
  rw [CoreWorld.actOn] at acted
  cases found : d.registry.taskList[i]? with
  | none =>
      simp only [found] at acted
      rw [acted] at after ⊢
      exact ⟨[], mirrors.of_cores (cores_of_eq after), rfl, trivial⟩
  | some t =>
      simp only [found, List.nil_append] at acted
      rw [acted] at after ⊢
      have set : d'.registry.taskList = d.registry.taskList.set i (op.apply t).task := by rw [after]
      rcases mirrors_op mirrors found keeps set with ⟨mirrors', calls, makes⟩
      exact ⟨[(i, op)], mirrors', calls.symm, makes⟩

theorem acted_matched {n : Nat} {d d' : Daemon} {s : Nat → TaskObj} (mirrors : Mirrors n d s)
    {w : CoreWorld} (acted : Acted ⟨d.registry, []⟩ w) (after : d'.registry = w.registry) :
    ∃ ops, Mirrors n d' (tasks.run s ops) ∧ w.calls = tasks.trace s ops ∧
      tasks.AllSteps (Makes n) s ops := by
  cases acted with
  | none => exact ⟨[], mirrors.of_cores (cores_of_eq after), rfl, trivial⟩
  | start i pid => exact actOn_matched mirrors i (.start pid) (by simp) rfl after
  | stop i => exact actOn_matched mirrors i .stop (by simp) rfl after
  | restart i pid => exact actOn_matched mirrors i (.restart pid) (by simp) rfl after

theorem readable_matched {n : Nat} {d : Daemon} {s : Nat → TaskObj} (mirrors : Mirrors n d s)
    (codec : Codec) (address : Nat) (env : ReadEnv) :
    Matched n s (d.readable codec address env) := by
  have outcome := readable_outcome codec d address env
  rcases made : d.readable codec address env with ⟨d', outs⟩
  rcases registry : d'.registry with ⟨taskList, count⟩
  rw [made, registry] at outcome
  generalize (⟨taskList, count⟩ : Registry) = r at outcome registry
  cases outcome with
  | gone _ => exact ⟨[], mirrors.of_cores (cores_of_eq registry), rfl, trivial⟩
  | quiet c outs _ about => exact matched_away mirrors (cores_of_eq registry) about
  | request c server w invoked wire outs _ _ reported about =>
      have acted : Acted ⟨d.registry, []⟩ w := by
        rcases reported.touched with same | ⟨cb, type, req, usrData, same⟩
        · rw [same]
          exact .none
        · rw [same]
          exact coreCallbacks_acted ..
      rcases acted_matched mirrors acted registry with ⟨ops, after, calls, makes⟩
      exact ⟨ops, after, (taskCall_request about).trans calls, makes⟩

theorem tickTask_cases (dt : ℚ) (fork : Nat → Int) (k : Nat) (t : TaskObj) :
    (tickTask dt fork k t).2 = [] ∧ (tickTask dt fork k t).1.core = t.core ∨
      ∃ t', t'.core = t.core ∧ (tickTask dt fork k t).1 = (taskTimeoutCb t' (fork k)).task ∧
        (tickTask dt fork k t).2 =
          .timedOut k :: (taskTimeoutCb t' (fork k)).calls.map (.task k) := by
  rw [tickTask]
  split
  · exact .inl ⟨rfl, rfl⟩
  rename_i timer _
  split
  · exact .inl ⟨rfl, rfl⟩
  split
  · exact .inr ⟨{ t with mTimer := some (rearm timer) }, rfl, rfl, rfl⟩
  · exact .inl ⟨rfl, rfl⟩

theorem tickTask_matched (dt : ℚ) (fork : Nat → Int) {n k : Nat} {t : TaskObj} {s : Nat → TaskObj}
    (inside : k < n) (same : t.core = (s k).core) :
    ∃ ops, (tickTask dt fork k t).1.core = (tasks.run s ops k).core ∧
      (∀ j, j ≠ k → tasks.run s ops j = s j) ∧
      (tickTask dt fork k t).2.filterMap taskCall? = tasks.trace s ops ∧
      tasks.AllSteps (Makes n) s ops := by
  rcases tickTask_cases dt fork k t with ⟨silent, still⟩ | ⟨t', rearmed, task, outs⟩
  · exact ⟨[], still.trans same, fun _ _ => rfl, by rw [silent]; rfl, trivial⟩
  · have keeps : TaskOp.timeout (fork k) ≠ .clear := by simp
    rcases TaskOp.apply_congr (rearmed.trans same) keeps with ⟨timedOut, calls⟩
    refine ⟨[(k, .timeout (fork k))], ?_, ?_, ?_, ⟨inside, by simp⟩, trivial⟩
    · rw [task]
      change _ = (Function.update s k _ k).core
      rw [Function.update_self]
      exact timedOut
    · intro j differs
      exact Function.update_of_ne differs _ _
    · rw [outs, StepMachine.trace_one, List.filterMap_cons]
      refine (taskCall_map k _).trans ?_
      exact congrArg (List.map (Prod.mk k)) calls

theorem tick_from (dt : ℚ) (fork : Nat → Int) {n k : Nat} {ts : List TaskObj} {s : Nat → TaskObj}
    (size : k + ts.length ≤ n) (same : ∀ i t, ts[i]? = some t → t.core = (s (k + i)).core) :
    ∃ ops, (∀ i t, ts[i]? = some t →
        (tickTask dt fork (k + i) t).1.core = (tasks.run s ops (k + i)).core) ∧
      (∀ j < k, tasks.run s ops j = s j) ∧
      ((ts.mapIdx fun i t => (tickTask dt fork (k + i) t).2).flatten).filterMap taskCall? =
        tasks.trace s ops ∧ tasks.AllSteps (Makes n) s ops := by
  -- on the tasks, numbered from `k` on: the later ones are not touched by the first one
  induction ts generalizing k s with
  | nil =>
      refine ⟨[], ?_, fun _ _ => rfl, rfl, trivial⟩
      intro i t found
      rw [List.getElem?_nil] at found
      cases found
  | cons t ts ih =>
      have inside : k < n := by
        rw [List.length_cons] at size
        omega
      rcases tickTask_matched dt fork inside (same 0 t rfl) with ⟨first, task, others, outs, makes⟩
      have rest : k + 1 + ts.length ≤ n := by
        rw [List.length_cons] at size
        omega
      have behind : ∀ i t, ts[i]? = some t → t.core = (tasks.run s first (k + 1 + i)).core := by
        intro i t' found
        rw [others _ (by omega), Nat.add_assoc, Nat.add_comm 1 i]
        exact same (i + 1) t' found
      rcases ih rest behind with ⟨later, tasks', before, outs', makes'⟩
      refine ⟨first ++ later, ?_, ?_, ?_, ?_⟩
      · intro i t' found
        rw [StepMachine.run_append]
        cases i with
        | zero =>
            obtain rfl := Option.some.inj found
            rw [Nat.add_zero, before k (Nat.lt_succ_self k)]
            exact task
        | succ i =>
            have place : k + (i + 1) = k + 1 + i := by omega
            rw [place]
            exact tasks' i t' found
      · intro j below
        rw [StepMachine.run_append, before j (by omega)]
        exact others j (by omega)
      · have shifted : (fun (i : Nat) (t : TaskObj) => (tickTask dt fork (k + (i + 1)) t).2) =
            fun i t => (tickTask dt fork (k + 1 + i) t).2 := by
          funext i t'
          rw [Nat.add_assoc, Nat.add_comm 1 i]
        rw [List.mapIdx_cons, List.flatten_cons, List.filterMap_append, StepMachine.trace_append,
          shifted, outs', Nat.add_zero, outs]
      · rw [StepMachine.allSteps_append]
        exact ⟨makes, makes'⟩

theorem tick_matched {n : Nat} {d : Daemon} {s : Nat → TaskObj} (mirrors : Mirrors n d s) (dt : ℚ)
    (fork : Nat → Int) : Matched n s (d.tick dt fork) := by
  have same : ∀ i t, d.registry.taskList[i]? = some t → t.core = (s (0 + i)).core := by
    intro i t found
    rw [Nat.zero_add]
    exact mirrors.2 i t found
  rcases tick_from dt fork (by rw [Nat.zero_add, mirrors.1]) same with
    ⟨ops, after, _, outs, makes⟩
  refine ⟨ops, ⟨?_, ?_⟩, ?_, makes⟩
  · simp only [tick, List.length_map, List.length_mapIdx]
    exact mirrors.1
  · intro i t found
    simp only [tick, List.getElem?_map, List.getElem?_mapIdx, Option.map_map] at found
    rcases Option.map_eq_some_iff.mp found with ⟨t', found', rfl⟩
    have core := after i t' found'
    rw [Nat.zero_add] at core
    exact core
  · have seconds : (d.registry.taskList.mapIdx (tickTask dt fork)).map Prod.snd =
        d.registry.taskList.mapIdx fun i t => (tickTask dt fork i t).2 := by
      apply List.ext_getElem?
      intro i
      simp [Function.comp_def]
    simp only [Nat.zero_add] at outs
    rw [← outs, tick, seconds]

theorem step_matched {n : Nat} {d : Daemon} {s : Nat → TaskObj} (mirrors : Mirrors n d s)
    (codec : Codec) (e : DaemonEvent) : Matched n s ((machine codec).step d e) := by
  by_cases alive : d.alive = true
  · rw [step_alive codec alive]
    cases e with
    | tick dt fork => exact tick_matched mirrors dt fork
    | connect pid fd env =>
        exact matched_away mirrors (cores_of_detached (d.recvClientConnect_detached pid fd env))
          (d.recvClientConnect_keeps pid fd env).2
    | readable address env => exact readable_matched mirrors codec address env
    | clearClients =>
        rcases d.clearClients_registry d.cliList with ⟨same, silent⟩
        exact matched_away mirrors (cores_of_eq same) silent
  · have dead : d.alive = false := by simpa using alive
    rcases step_dead codec dead e with ⟨same, silent⟩
    refine ⟨[], ?_, ?_, trivial⟩
    · exact mirrors.of_cores (cores_of_eq (congrArg Daemon.registry same))
    · exact congrArg (List.filterMap taskCall?) silent

theorem simulates (codec : Codec) (n : Nat) :
    StepMachine.Simulation ((machine codec).seeing taskCall?) tasks (Mirrors n) (fun _ _ => True)
      (Makes n) (fun call => [call]) where
  step d e s mirrors _ := by
    rcases step_matched mirrors codec e with ⟨ops, after, calls, makes⟩
    refine ⟨ops, after, ?_, makes⟩
    rw [List.flatMap_singleton']
    exact calls

theorem makes_untouched {n i : Nat} {s : Nat → TaskObj} {ops : List (Nat × TaskOp)}
    (makes : tasks.AllSteps (Makes n) s ops) (beyond : n ≤ i) : tasks.run s ops i = s i := by
  induction ops generalizing s with
  | nil => rfl
  | cons e ops ih =>
      have differs : i ≠ e.1 := by
        have inside := makes.1.1
        omega
      rw [StepMachine.run_cons, ih makes.2]
      exact Function.update_of_ne differs _ _

/-- Every run of the daemon is matched by operations on its tasks. -/
theorem run_matched (codec : Codec) (d : Daemon) (es : List DaemonEvent) :
    let n := d.registry.taskList.length
    ∃ (s : Nat → TaskObj) (ops : List (Nat × TaskOp)),
      Mirrors n d s ∧ (∀ i, n ≤ i → (s i).mStatus = .U) ∧
      Mirrors n ((machine codec).run d es) (tasks.run s ops) ∧
      taskCalls codec d es = tasks.trace s ops ∧ tasks.AllSteps (Makes n) s ops := by
  intro n
  let s (i : Nat) : TaskObj := (d.registry.taskList[i]?).getD freshTask
  have mirrors : Mirrors n d s := by
    refine ⟨rfl, ?_⟩
    intro i t found
    simp only [s, found, Option.getD_some]
  have guarded := StepMachine.allSteps_true ((machine codec).seeing taskCall?) (fun _ _ => True)
    (fun _ _ => trivial) d es
  rcases (simulates codec n).run mirrors guarded with ⟨ops, after, calls, makes⟩
  rw [StepMachine.seeing_run] at after
  rw [StepMachine.seeing_trace, List.flatMap_singleton'] at calls
  refine ⟨s, ops, mirrors, ?_, after, calls, makes⟩
  intro i outside
  simp only [s, List.getElem?_eq_none outside, Option.getD_none]
  rfl

end Daemon

def SysCall.onProcess : SysCall → Bool
  | .fork _ | .kill _ | .waitpid _ => true
  | _ => false

def processCall? (i : Nat) (call : Nat × SysCall) : Option SysCall :=
  if call.1 = i ∧ call.2.onProcess = true then some call.2 else none

def processOf (t : TaskObj) : Option Int := if t.mStatus = .U then none else some t.mPid

theorem processCall_self (i : Nat) (calls : List SysCall) :
    (calls.map (Prod.mk i)).filterMap (processCall? i) = calls.filter SysCall.onProcess := by
  rw [List.filterMap_map, ← List.filterMap_eq_filter]
  apply List.filterMap_congr
  intro call _
  simp [processCall?, Option.guard]

theorem processCall_other {i j : Nat} (differs : j ≠ i) (calls : List SysCall) :
    (calls.map (Prod.mk j)).filterMap (processCall? i) = [] := by
  apply List.filterMap_eq_nil_iff.mpr
  intro call member
  rcases List.mem_map.mp member with ⟨inner, _, rfl⟩
  simp [processCall?, differs]

theorem onProcess_inert {calls : List SysCall} (inert : ∀ call ∈ calls, call.Inert) :
    calls.filter SysCall.onProcess = [] := by
  apply List.filter_eq_nil_iff.mpr
  intro call member
  have quiet := inert call member
  cases call <;> first | exact quiet.elim | simp [SysCall.onProcess]

namespace TaskObj

theorem startTask_processes (t : TaskObj) (pid : Int) :
    processOf (t.startTask pid).task = processOf t ∧ (t.startTask pid).calls = [] ∨
      processOf t = none ∧ processOf (t.startTask pid).task = some pid ∧
        (t.startTask pid).calls = [.fork pid] := by
  by_cases idle : t.mStatus = .U
  · rw [startTask_of_idle idle]
    exact .inr ⟨if_pos idle, rfl, rfl⟩
  · rw [startTask_of_active idle]
    exact .inl ⟨rfl, rfl⟩

theorem stopTask_processes (t : TaskObj) :
    processOf t.stopTask.task = none ∧
      t.stopTask.calls.filter SysCall.onProcess =
        StepMachine.acts (fun p => [.kill p, .waitpid p]) (processOf t) := by
  refine ⟨if_pos t.stopTask_idle, ?_⟩
  by_cases idle : t.mStatus = .U
  · rw [stopTask_of_idle idle, processOf, if_pos idle]
    rfl
  · rw [stopTask_calls idle, processOf, if_neg idle]
    simp [List.filter_cons, List.filter_append, onProcess_inert t.closeReadIo_inert,
      SysCall.onProcess, StepMachine.acts]

end TaskObj

/-- The processes of a task, one after the other: each is forked, and killed and reaped before the
next one is. -/
theorem process_leases (n i : Nat) :
    StepMachine.Leases tasks (fun s => processOf (s i)) (fun p => [.fork p])
      (fun p => [.kill p, .waitpid p]) (processCall? i) (Daemon.Makes n) where
  step s e makes := by
    rcases e with ⟨j, op⟩
    change processOf (Function.update s j (op.apply (s j)).task i) = processOf (s i) ∧
        ((op.apply (s j)).calls.map (Prod.mk j)).filterMap (processCall? i) = [] ∨
      ((op.apply (s j)).calls.map (Prod.mk j)).filterMap (processCall? i) = _ ++
        StepMachine.acts _ (processOf (Function.update s j (op.apply (s j)).task i))
    by_cases same : j = i
    · subst same
      rw [Function.update_self, processCall_self]
      -- the old process is killed and reaped before the new one is forked
      have restarted (pid : Int) :
          ((s j).restartTask pid).calls.filter SysCall.onProcess =
            StepMachine.acts (fun p => [.kill p, .waitpid p]) (processOf (s j)) ++
              StepMachine.acts (fun p => [.fork p])
                (processOf ((s j).restartTask pid).task) := by
        rcases (s j).stopTask_processes with ⟨none, stopped⟩
        have started := TaskObj.startTask_of_idle (s j).stopTask_idle pid
        simp only [TaskObj.restartTask, started, List.filter_append, stopped]
        rfl
      cases op with
      | start pid =>
          rcases (s j).startTask_processes pid with ⟨still, silent⟩ | ⟨idle, running, forks⟩
          · refine .inl ⟨still, ?_⟩
            simp [TaskOp.apply, silent]
          · refine .inr ?_
            simp only [TaskOp.apply, running, idle, forks]
            rfl
      | stop =>
          rcases (s j).stopTask_processes with ⟨none, stopped⟩
          refine .inr ?_
          simp only [TaskOp.apply, none, stopped]
          exact (List.append_nil _).symm
      | restart pid => exact .inr (restarted pid)
      | timeout pid => exact .inr (restarted pid)
      | clear => exact absurd rfl makes.2
    · rw [Function.update_of_ne (Ne.symm same), processCall_other same]
      exact .inl ⟨rfl, rfl⟩

section Ledgers

variable {ι : Type*} [DecidableEq ι]

def Positive (children : List (ι × Int)) : Prop := ∀ child ∈ children, 0 < child.2

omit [DecidableEq ι] in
theorem positive_after {children : List (ι × Int)} (positive : Positive children)
    (call : ι × SysCall) : Positive (childrenAfter children call) := by
  rcases call with ⟨i, call⟩
  cases call with
  | fork pid =>
      dsimp only [childrenAfter]
      split
      · rename_i above
        intro child member
        rcases List.mem_cons.mp member with rfl | old
        · exact above
        · exact positive child old
      · exact positive
  | waitpid pid => exact fun child member => positive child (List.mem_of_mem_filter member)
  | _ => exact positive

omit [DecidableEq ι] in
theorem positive_run {children : List (ι × Int)} (positive : Positive children)
    (calls : List (ι × SysCall)) : Positive (ledger.run children calls) :=
  ledger.run_invariant_all Positive (fun _ call held => positive_after held call) calls positive

/-- Where forks succeed, operations on tasks signal and reap their own children alone, fork no
second copy, and leave the running tasks one child each. -/
theorem ledger_tasks {s : ι → TaskObj} {ops : List (ι × TaskOp)} {children : List (ι × Int)}
    (one : OneEach children s) (positive : Positive children)
    (succeed : ledger.AllSteps ForkSucceeds children (tasks.trace s ops)) :
    ledger.AllSteps CallSafe children (tasks.trace s ops) ∧
      ledger.AllSteps FirstCopy children (tasks.trace s ops) ∧
      OneEach (ledger.run children (tasks.trace s ops)) (tasks.run s ops) := by
  induction ops generalizing s children with
  | nil => exact ⟨trivial, trivial, one⟩
  | cons e ops ih =>
      rw [StepMachine.trace_cons] at succeed ⊢
      rw [StepMachine.allSteps_append] at succeed
      rcases succeed with ⟨now, later⟩
      have path := apply_path (i := e.1) one e.2 now
      have accounted : Accounted children s := by
        refine ⟨?_, one.distinct⟩
        intro i running
        refine (one.own i _).mpr ⟨?_, rfl⟩
        intro idle
        rw [phaseOf_eq_idle.mpr idle] at running
        cases running
      have lawful := ledger.allSteps_imp (Q := ForkLawful) (fun children call succeeds => by
        rcases call with ⟨i, call⟩
        cases call <;> first | exact .inr succeeds | trivial) now
      have safe : ledger.AllSteps CallSafe children (tasks.emit s e) := by
        refine (apply_leg (i := e.1) accounted e.2 lawful).safe.mpr ?_
        intro broken
        have active : (s e.1).mStatus ≠ .U := by
          intro idle
          rw [phaseOf_eq_idle.mpr idle] at broken
          cases broken
        have above := positive _ ((one.own e.1 _).mpr ⟨active, rfl⟩)
        rw [phaseOf_active active, forked_eq_broken] at broken
        exact absurd above broken
      rcases ih path.one (positive_run positive _) later with ⟨safe', first', one'⟩
      rw [StepMachine.allSteps_append, StepMachine.allSteps_append, StepMachine.run_append]
      exact ⟨⟨safe, safe'⟩, ⟨path.first, first'⟩, one'⟩

end Ledgers

theorem processOf_core {t t' : TaskObj} (same : t.core = t'.core) : processOf t = processOf t' := by
  rcases TaskObj.of_core same with ⟨status, pid⟩
  rw [processOf, processOf, status, pid]

namespace Daemon

theorem history_from (codec : Codec) (d : Daemon) (es : List DaemonEvent) {i : Nat}
    {t t' : TaskObj} (found : d.registry.taskList[i]? = some t)
    (found' : ((machine codec).run d es).registry.taskList[i]? = some t') :
    ∃ pids : List Int, StepMachine.acts (fun p => [.fork p]) (processOf t) ++
        (taskCalls codec d es).filterMap (processCall? i) =
      pids.flatMap (fun p => [.fork p, .kill p, .waitpid p]) ++
        if t'.mStatus = .U then [] else [.fork t'.mPid] := by
  rcases run_matched codec d es with ⟨s, ops, before, _, after, calls, makes⟩
  rcases (process_leases d.registry.taskList.length i).run makes with ⟨pids, history⟩
  rw [← processOf_core (before.2 i t found), ← processOf_core (after.2 i t' found'), ← calls]
    at history
  refine ⟨pids, history.trans ?_⟩
  by_cases stopped : t'.mStatus = .U
  · rw [processOf, if_pos stopped, if_pos stopped]
    rfl
  · rw [processOf, if_neg stopped, if_neg stopped]
    rfl

/-- Over every run of the daemon, whatever connects, is read, times out and is asked for: each
process of a task is forked, killed and reaped once, in this order and before the next one of the
task is forked, but for the process that the task still has. -/
theorem process_history (codec : Codec) (d : Daemon) (es : List DaemonEvent) {i : Nat}
    {t t' : TaskObj} (found : d.registry.taskList[i]? = some t) (idle : t.mStatus = .U)
    (found' : ((machine codec).run d es).registry.taskList[i]? = some t') :
    ∃ pids : List Int, (taskCalls codec d es).filterMap (processCall? i) =
      pids.flatMap (fun p => [.fork p, .kill p, .waitpid p]) ++
        if t'.mStatus = .U then [] else [.fork t'.mPid] := by
  rcases history_from codec d es found found' with ⟨pids, history⟩
  rw [processOf, if_pos idle] at history
  exact ⟨pids, history⟩

def supervisedRun : List DaemonEvent :=
  startRun ++ [.tick 9 fun _ => 43, actionRead 43 taskActionStop]

theorem process_history_supervised :
    ∃ (t' : TaskObj) (pids : List Int),
      ((machine textCodec).run stoppedDaemon supervisedRun).registry.taskList[0]? = some t' ∧
      (taskCalls textCodec stoppedDaemon supervisedRun).filterMap (processCall? 0) =
        pids.flatMap (fun p => [.fork p, .kill p, .waitpid p]) ++
          if t'.mStatus = .U then [] else [.fork t'.mPid] := by
  have bound : 0 <
      ((machine textCodec).run stoppedDaemon supervisedRun).registry.taskList.length := by
    decide +kernel
  have found' := List.getElem?_eq_getElem bound
  rcases process_history textCodec stoppedDaemon supervisedRun (i := 0) rfl rfl found' with
    ⟨pids, history⟩
  exact ⟨_, pids, found', history⟩

/-- Over every run of a daemon whose forks succeed, from tasks that are not running: it signals and
reaps nothing but unreaped children, each for the task that has forked it; it forks no task twice;
and its unreaped children are the processes of the running tasks, one each. -/
theorem one_child_each (codec : Codec) {d : Daemon}
    (idle : ∀ t ∈ d.registry.taskList, t.mStatus = .U) {es : List DaemonEvent}
    (succeed : ledger.AllSteps ForkSucceeds [] (taskCalls codec d es)) :
    let calls := taskCalls codec d es
    ledger.AllSteps CallSafe [] calls ∧ ledger.AllSteps FirstCopy [] calls ∧
      ((ledger.run [] calls).map Prod.snd).Nodup ∧
      ∀ i pid, (i, pid) ∈ ledger.run [] calls ↔
        ∃ t, ((machine codec).run d es).registry.taskList[i]? = some t ∧
          t.mStatus ≠ .U ∧ t.mPid = pid := by
  intro calls
  rcases run_matched codec d es with ⟨s, ops, before, outside, after, same, makes⟩
  have idle_s : ∀ i, (s i).mStatus = .U := by
    intro i
    cases found : d.registry.taskList[i]? with
    | none => exact outside i (List.getElem?_eq_none_iff.mp found)
    | some t =>
        have status := (TaskObj.of_core (before.2 i t found)).1
        exact status.symm.trans (idle t (List.mem_of_getElem? found))
  have one : OneEach [] s := by
    refine ⟨?_, List.nodup_nil⟩
    intro i pid
    exact iff_of_false List.not_mem_nil fun both => both.1 (idle_s i)
  have ledgers : ledger.AllSteps ForkSucceeds [] (tasks.trace s ops) := same ▸ succeed
  have positive : Positive (ι := Nat) [] := nofun
  rcases ledger_tasks one positive ledgers with ⟨safe, first, one'⟩
  rw [← same] at safe first one'
  refine ⟨safe, first, one'.distinct, ?_⟩
  intro i pid
  rw [one'.own]
  constructor
  · intro held
    rcases held with ⟨running, stored⟩
    have inside : i < d.registry.taskList.length := by
      by_contra beyond
      rw [makes_untouched makes (Nat.le_of_not_lt beyond)] at running
      exact running (idle_s i)
    rw [← after.1] at inside
    have found := List.getElem?_eq_getElem inside
    rcases TaskObj.of_core (after.2 i _ found) with ⟨status, pid'⟩
    exact ⟨_, found, status ▸ running, pid' ▸ stored⟩
  · intro held
    rcases held with ⟨t, found, running, stored⟩
    rcases TaskObj.of_core (after.2 i t found) with ⟨status, pid'⟩
    exact ⟨status ▸ running, pid' ▸ stored⟩

theorem one_child_each_supervised :
    let calls := taskCalls textCodec stoppedDaemon supervisedRun
    ledger.AllSteps CallSafe [] calls ∧ ledger.AllSteps FirstCopy [] calls ∧
      ((ledger.run [] calls).map Prod.snd).Nodup ∧
      ∀ i pid, (i, pid) ∈ ledger.run [] calls ↔
        ∃ t, ((machine textCodec).run stoppedDaemon supervisedRun).registry.taskList[i]? = some t ∧
          t.mStatus ≠ .U ∧ t.mPid = pid := by
  apply one_child_each
  · intro t member
    obtain rfl := List.mem_singleton.mp member
    rfl
  · decide +kernel

end Daemon

end TaskMonitor
