import TaskMonitor.Connections
import TaskMonitor.Library.CjsonText

/-! A connection object from its construction on. -/

namespace TaskMonitor

variable {σ : Type*}

inductive ConnectionEvent (σ : Type*) where
  | readable (env : List UInt8 → MsgServer.RecvEnv) (w : σ) (reads : List ReadResult)
  | received (env : MsgServer.RecvEnv) (w : σ)
  | stopped

def connection (codec : Cjson.Codec) (call : CallbackSem CoreCb Nat σ) :
    StepMachine TaskObjClient (ConnectionEvent σ) SysCall where
  step c
    | .readable env w reads =>
        let r := c.taskReadIoCb codec call env w reads
        (r.client, r.calls)
    | .received env w =>
        let r := c.recvData codec call env w
        (r.client, r.calls)
    | .stopped => (c.stopTaskClient.client, c.stopTaskClient.calls)

def HoldsWatcher (env : ConnectEnv) (io : Nat) : Prop :=
  env.watchRet ≠ 0 ∧ (io : Int) = env.watchRet

structure Up (fd : Int) (env : ConnectEnv) (c : TaskObjClient) (calls : List SysCall) : Prop where
  opened : .close fd ∉ calls
  descriptor : c.mClientFd = fd
  watched : ∃ io, c.mReadIo = some io ∧ HoldsWatcher env io ∧ .watchDestroy io ∉ calls
  served : ∃ server, c.msgServer = some server ∧ server.mClientFd = fd
  available : c.isAvailable = 1

structure Down (fd : Int) (env : ConnectEnv) (c : TaskObjClient) (calls : List SysCall) : Prop where
  closed : calls.count (.close fd) = 1
  unwatched : c.mReadIo = none ∧ ∃ io, HoldsWatcher env io ∧ .watchDestroy io ∈ calls
  unserved : c.msgServer = none
  unavailable : c.isAvailable = 0

def UpThenDown (codec : Cjson.Codec) (call : CallbackSem CoreCb Nat σ) (fd : Int)
    (env : ConnectEnv) (c : TaskObjClient) (calls : List SysCall) : Prop :=
  Up fd env c calls ∧ ∀ es,
    Up fd env ((connection codec call).run c es) (calls ++ (connection codec call).trace c es) ∨
      Down fd env ((connection codec call).run c es) (calls ++ (connection codec call).trace c es)

theorem create_closes {fd : Int} (positive : 0 < fd) {env : ConnectEnv} (works : ¬ env.Throws)
    (self : Nat) (pid : Int) :
    ∃ c calls, TaskObjClient.create self fd pid env = (some c, calls) ∧ .close fd ∈ calls ∧
      c.mClientFd = -1 ∧ c.mReadIo = none ∧ c.isAvailable = 1 := by
  rcases ConnectEnv.not_throws works with ⟨watched, uninit, served⟩
  have made := TaskObjClient.create_of_works watched served self fd pid
  have closes : .close fd ∈ TaskObjClient.openingCalls fd env.memory := by
    simp [TaskObjClient.openingCalls, TaskObjClient.stopTaskClient, positive]
  exact ⟨_, _, made, List.mem_append_left _ closes, if_pos positive, rfl, rfl⟩

/-- A constructor that returns never leaves the connection up: it starts by stopping the
half-made object, which closes the descriptor, and it keeps no watcher. -/
theorem connection_up_iff {fd : Int} (positive : 0 < fd) (codec : Cjson.Codec)
    (call : CallbackSem CoreCb Nat σ) (self : Nat) (pid : Int) (env : ConnectEnv) :
    (∀ c calls, TaskObjClient.create self fd pid env = (some c, calls) →
        UpThenDown codec call fd env c calls) ↔ env.Throws := by
  constructor
  · intro established
    by_contra works
    rcases create_closes positive works self pid with ⟨c, calls, made, closed, _⟩
    exact (established c calls made).1.opened closed
  · intro throws c calls made
    have unmade := TaskObjClient.create_of_throws throws self fd pid
    rw [made] at unmade
    cases unmade

def unwatchedConnect : ConnectEnv := ⟨⟨0, 0, none, none, 0⟩, 0, some fun _ => none⟩

theorem connection_up_iff_five :
    (∀ c calls, TaskObjClient.create 0 5 40 unwatchedConnect = (some c, calls) →
        UpThenDown Cjson.textCodec (coreCallbacks ⟨true, -1, fun _ => ⟨0, 0⟩⟩) 5 unwatchedConnect c
          calls) ↔ unwatchedConnect.Throws :=
  connection_up_iff (by decide) _ _ 0 40 unwatchedConnect

/-- The constructor returns for descriptor 5, which it has closed. -/
theorem five_is_closed :
    ∃ c calls, TaskObjClient.create 0 5 40 unwatchedConnect = (some c, calls) ∧
      calls = [.close 5, .watchCreate 5 0] ∧ ¬ Up 5 unwatchedConnect c calls := by
  refine ⟨_, _, rfl, rfl, ?_⟩
  intro up
  exact up.opened List.mem_cons_self

end TaskMonitor
