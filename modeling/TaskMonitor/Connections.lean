import TaskMonitor.DaemonSteps

/-! Connection objects: what their constructor makes, and where they are found. -/

namespace TaskMonitor

def ConnectEnv.Throws (env : ConnectEnv) : Prop := env.watchRet ≠ 0 ∨ env.serverMemory = none

instance (env : ConnectEnv) : Decidable env.Throws := inferInstanceAs (Decidable (_ ∨ _))

theorem ConnectEnv.not_throws {env : ConnectEnv} (works : ¬ env.Throws) :
    env.watchRet = 0 ∧ ∃ uninit, env.serverMemory = some uninit := by
  rcases not_or.mp works with ⟨watched, served⟩
  exact ⟨not_not.mp watched, Option.ne_none_iff_exists'.mp served⟩

namespace TaskObjClient

/-- What a constructor that does not throw leaves: its own descriptor closed and forgotten, no
watcher, and a server. -/
def fresh (self : Nat) (fd pid : Int) (uninit : EventType → Option Nat) : TaskObjClient :=
  ⟨if 0 < fd then -1 else fd, pid, none, some (registerCallbacks (.new fd uninit) self), 1⟩

def openingCalls (fd : Int) (memory : TaskObjClient) : List SysCall :=
  ({ memory with mClientFd := fd } : TaskObjClient).stopTaskClient.calls

theorem create_of_throws {env : ConnectEnv} (throws : env.Throws) (self : Nat) (fd pid : Int) :
    (create self fd pid env).1 = none := by
  rw [create, startTaskClient]
  by_cases watched : env.watchRet = 0
  · have unserved : env.serverMemory = none := throws.resolve_left (not_not.mpr watched)
    simp [watched, unserved]
  · simp [watched]

theorem create_of_works {env : ConnectEnv} {uninit : EventType → Option Nat}
    (watched : env.watchRet = 0) (served : env.serverMemory = some uninit) (self : Nat)
    (fd pid : Int) :
    create self fd pid env =
      (some (fresh self fd pid uninit), openingCalls fd env.memory ++ [.watchCreate fd self]) := by
  simp [create, startTaskClient, watched, served, fresh, stopTaskClient, openingCalls]

end TaskObjClient

namespace Daemon

theorem findClient_setClient_self (d : Daemon) (a : Nat) (c : TaskObjClient) :
    (d.setClient a c).findClient a = some c := by
  simp [findClient, setClient]

theorem find?_filter_ne (clients : List (Nat × TaskObjClient)) {a b : Nat} (differs : b ≠ a) :
    (clients.filter (·.1 ≠ a)).find? (·.1 = b) = clients.find? (·.1 = b) := by
  rw [List.find?_filter]
  congr 1
  funext entry
  by_cases same : entry.1 = b
  · simp [same, differs]
  · simp [same]

theorem findClient_setClient_ne (d : Daemon) {a b : Nat} (differs : b ≠ a) (c : TaskObjClient) :
    (d.setClient a c).findClient b = d.findClient b := by
  have head : decide (a = b) = false := decide_eq_false fun same => differs same.symm
  rw [findClient, setClient, List.find?_cons, head]
  exact congrArg (Option.map Prod.snd) (find?_filter_ne d.clients differs)

theorem findClient_deleteClient_self (d : Daemon) (a : Nat) :
    (d.deleteClient a).1.findClient a = none := by
  rw [deleteClient]
  cases found : d.findClient a with
  | none => exact found
  | some c => simp [findClient]

theorem findClient_deleteClient_ne (d : Daemon) {a b : Nat} (differs : b ≠ a) :
    (d.deleteClient a).1.findClient b = d.findClient b := by
  rw [deleteClient]
  cases d.findClient a with
  | none => rfl
  | some c => exact congrArg (Option.map Prod.snd) (find?_filter_ne d.clients differs)

theorem clearClients_shrinks {d : Daemon} {addresses : List Nat} {a : Nat} {c : TaskObjClient}
    (found : (d.clearClients addresses).1.findClient a = some c) : d.findClient a = some c := by
  induction addresses generalizing d with
  | nil => exact found
  | cons b later ih =>
      rw [clearClients] at found
      have shrunk := ih found
      split at shrunk
      · exact shrunk
      · split at shrunk
        · by_cases same : a = b
          · rw [same, findClient_deleteClient_self] at shrunk
            cases shrunk
          · rwa [findClient_deleteClient_ne d same] at shrunk
        · exact shrunk

theorem newClient_of_throws {env : ConnectEnv} (throws : env.Throws) (d : Daemon) (fd pid : Int) :
    (d.newClient fd pid env).1 = none ∧
      (d.newClient fd pid env).2.1 = { d with created := d.created + 1 } := by
  have none_made := TaskObjClient.create_of_throws throws d.created fd pid
  rw [newClient]
  generalize TaskObjClient.create d.created fd pid env = made at none_made
  rcases made with ⟨made, calls⟩
  dsimp only at none_made
  rw [none_made]
  exact ⟨rfl, rfl⟩

theorem newClient_of_works {env : ConnectEnv} {uninit : EventType → Option Nat}
    (watched : env.watchRet = 0) (served : env.serverMemory = some uninit) (d : Daemon)
    (fd pid : Int) :
    (d.newClient fd pid env).1 = some d.created ∧
      (d.newClient fd pid env).2.1 =
        { d with created := d.created + 1 }.setClient d.created
          (.fresh d.created fd pid uninit) := by
  rw [newClient, TaskObjClient.create_of_works watched served]
  exact ⟨rfl, rfl⟩

theorem stopTaskClient_taskList (d : Daemon) (i : Nat) (t : TaskObj) :
    (d.stopTaskClient i t).1.registry.taskList =
        d.registry.taskList.set i { t with mClient := none } ∧
      (d.stopTaskClient i t).1.created = d.created := by
  have detaching := t.stopTaskClient_task
  rw [stopTaskClient]
  cases t.mClient with
  | none => exact ⟨by rw [detaching]; rfl, rfl⟩
  | some address =>
      have kept := (d.deleteClient_registry address).1
      have same : (d.deleteClient address).1.created = d.created := by
        rw [deleteClient]
        cases d.findClient address <;> rfl
      rw [detaching]
      constructor
      · calc
          _ = (d.deleteClient address).1.registry.taskList.set i { t with mClient := none } := rfl
          _ = d.registry.taskList.set i { t with mClient := none } := by rw [kept]
      · exact same

theorem startTaskClient_of_throws {env : ConnectEnv} (throws : env.Throws) (d : Daemon) (i : Nat)
    (t : TaskObj) (fd : Int) :
    (d.startTaskClient i t fd env).1 =
      { (d.stopTaskClient i t).1 with created := d.created + 1, alive := false } := by
  rcases newClient_of_throws throws (d.stopTaskClient i t).1 fd t.mPid with ⟨unmade, left⟩
  have same := (d.stopTaskClient_taskList i t).2
  rw [startTaskClient]
  generalize d.stopTaskClient i t = stopped at unmade left same
  rcases stopped with ⟨d', gone⟩
  dsimp only at unmade left same ⊢
  generalize d'.newClient fd t.mPid env = made at unmade left
  rcases made with ⟨address, d'', outs⟩
  dsimp only at unmade left
  rw [unmade, left, same]
  rfl

theorem startTaskClient_of_works {env : ConnectEnv} {uninit : EventType → Option Nat}
    (watched : env.watchRet = 0) (served : env.serverMemory = some uninit) (d : Daemon) (i : Nat)
    (t : TaskObj) (fd : Int) :
    (d.startTaskClient i t fd env).1 =
      ({ (d.stopTaskClient i t).1 with created := d.created + 1 }.setClient d.created
        (.fresh d.created fd t.mPid uninit)).setTask i { t with mClient := some d.created } := by
  rcases newClient_of_works watched served (d.stopTaskClient i t).1 fd t.mPid with ⟨fresh, left⟩
  have same := (d.stopTaskClient_taskList i t).2
  have detaching := t.stopTaskClient_task
  rw [startTaskClient]
  generalize d.stopTaskClient i t = stopped at fresh left same
  rcases stopped with ⟨d', gone⟩
  dsimp only at fresh left same ⊢
  generalize d'.newClient fd t.mPid env = made at fresh left
  rcases made with ⟨address, d'', outs⟩
  dsimp only at fresh left
  rw [fresh, left, same, detaching]

def ownerOf (d : Daemon) (pid : Int) : Option Nat :=
  d.registry.taskList.findIdx? fun obj => obj.getTaskPid = pid

def attached (d : Daemon) (env : ConnectEnv) : Option Nat :=
  if env.Throws then none else some d.created

/-- A client whose pid a task has recorded becomes the connection of that task, and changes
nothing else of the tasks. -/
theorem recvClientConnect_owned {d : Daemon} {pid : Int} {i : Nat} {t : TaskObj}
    (owner : d.ownerOf pid = some i) (found : d.registry.taskList[i]? = some t) (fd : Int)
    (env : ConnectEnv) :
    (d.recvClientConnect pid fd env).1.registry.taskList =
        d.registry.taskList.set i { t with mClient := d.attached env } ∧
      (d.recvClientConnect pid fd env).1.created = d.created + 1 := by
  have stopped := (d.stopTaskClient_taskList i t).1
  rw [ownerOf] at owner
  rw [recvClientConnect, owner, attached]
  simp only [found]
  by_cases throws : env.Throws
  · rw [startTaskClient_of_throws throws, if_pos throws]
    exact ⟨stopped, rfl⟩
  · rcases ConnectEnv.not_throws throws with ⟨watched, uninit, served⟩
    rw [startTaskClient_of_works watched served, if_neg throws]
    constructor
    · calc
        _ = (d.stopTaskClient i t).1.registry.taskList.set i { t with mClient := some d.created } :=
          rfl
        _ = (d.registry.taskList.set i { t with mClient := none }).set i
              { t with mClient := some d.created } := by rw [stopped]
        _ = d.registry.taskList.set i { t with mClient := some d.created } := List.set_set ..
    · rfl

theorem recvClientConnect_stranger {d : Daemon} {pid : Int} (stranger : d.ownerOf pid = none)
    (fd : Int) (env : ConnectEnv) :
    (d.recvClientConnect pid fd env).1.registry.taskList = d.registry.taskList ∧
      (d.recvClientConnect pid fd env).1.created = d.created + 1 := by
  rw [ownerOf] at stranger
  rw [recvClientConnect, stranger]
  by_cases throws : env.Throws
  · rcases newClient_of_throws throws d fd pid with ⟨unmade, left⟩
    generalize d.newClient fd pid env = made at unmade left
    rcases made with ⟨address, d', outs⟩
    dsimp only at unmade left
    subst unmade left
    exact ⟨rfl, rfl⟩
  · rcases ConnectEnv.not_throws throws with ⟨watched, uninit, served⟩
    rcases newClient_of_works watched served d fd pid with ⟨made, left⟩
    generalize d.newClient fd pid env = created at made left
    rcases created with ⟨address, d', outs⟩
    dsimp only at made left
    subst made left
    exact ⟨rfl, rfl⟩

end Daemon

end TaskMonitor
