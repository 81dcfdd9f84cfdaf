import TaskMonitor.MsgServer
import TaskMonitor.TaskObj

/-! `TaskObjClient` of `TaskObjClient.cpp`: one accepted connection and its message server. -/

namespace TaskMonitor

inductive CoreCb where
  | processHeartbeat | processGetAllTask | processGetSingleTask | processTaskAction
  deriving DecidableEq, Repr

/-- The user data of the server's callbacks is the address of the connection object. -/
structure TaskObjClient where
  mClientFd : Int
  mPid : Int
  mReadIo : Option Nat
  msgServer : Option (MsgServer CoreCb Nat)
  isAvailable : Int

structure ClientResult where
  client : TaskObjClient
  calls : List SysCall
  ret : Option Int

/-- What a connection object meets while it is created: the memory it is made of, the result
of `libev_api_watchio_create`, and the memory of its server, absent if that cannot be created. -/
structure ConnectEnv where
  memory : TaskObjClient
  watchRet : Int
  serverMemory : Option (EventType → Option Nat)

/-- One `read`: bytes, none of them at the end of the file, `EINTR`, or another error. -/
inductive ReadResult where
  | bytes (data : List UInt8)
  | interrupted
  | failed
  deriving DecidableEq, Repr

namespace TaskObjClient

def stopTaskClient (c : TaskObjClient) : ClientResult :=
  let served : List SysCall := if c.msgServer.isSome then [.deleteServer] else []
  let watched : List SysCall := c.mReadIo.toList.map .watchDestroy
  let opened : List SysCall := if c.mClientFd > 0 then [.close c.mClientFd] else []
  ⟨{ c with
      msgServer := none
      mReadIo := none
      mClientFd := if c.mClientFd > 0 then -1 else c.mClientFd
      isAvailable := 0 }, served ++ watched ++ opened, some 0⟩

def registerCallbacks (server : MsgServer CoreCb Nat) (self : Nat) : MsgServer CoreCb Nat :=
  let server := (server.registerEventCb .heartbeat .processHeartbeat self).1
  let server := (server.registerEventCb .queryAll .processGetAllTask self).1
  let server := (server.registerEventCb .queryTask .processGetSingleTask self).1
  (server.registerEventCb .taskAction .processTaskAction self).1

/-- The result of the watcher's creation is kept in `ret`, not in `mReadIo`. The exception of a
`MsgServer` that cannot be created goes through. -/
def startTaskClient (c : TaskObjClient) (self : Nat) (fd : Int) (env : ConnectEnv) : ClientResult :=
  let stopped := c.stopTaskClient
  let calls := stopped.calls ++ [.watchCreate fd self]
  if env.watchRet ≠ 0 then ⟨stopped.client, calls, some env.watchRet⟩
  else
    match env.serverMemory with
    | none => ⟨stopped.client, calls, none⟩
    | some uninit =>
        let server := registerCallbacks (.new fd uninit) self
        ⟨{ stopped.client with msgServer := some server, isAvailable := 1 }, calls, some 0⟩

/-- The constructor. It sets neither `mReadIo` nor `msgServer` before it stops the client they
belong to. `none` is the exception. -/
def create (self : Nat) (fd pid : Int) (env : ConnectEnv) : Option TaskObjClient × List SysCall :=
  let started := { env.memory with mClientFd := fd, mPid := pid }.startTaskClient self fd env
  (if started.ret ≠ some 0 then none else some started.client, started.calls)

structure RecvResult (σ : Type*) where
  client : TaskObjClient
  calls : List SysCall
  parsed : Option (ServerResult CoreCb Nat σ)

def recvData {σ : Type*} (codec : Cjson.Codec) (call : CallbackSem CoreCb Nat σ)
    (env : MsgServer.RecvEnv) (c : TaskObjClient) (w : σ) : RecvResult σ :=
  match c.msgServer with
  | none => ⟨c, [], none⟩
  | some server =>
      let r := MsgServer.recvData codec call env server w
      let c' := { c with msgServer := some { server with mRb := r.rb } }
      if r.ret ≠ 0 then ⟨c'.stopTaskClient.client, c'.stopTaskClient.calls, r.parsed⟩
      else ⟨c', [], r.parsed⟩

def isClientAvailable (c : TaskObjClient) : Int := c.isAvailable

def bufLen : Nat := 1024

/-- The loop of `taskReadIoCb`, one result for each `read`. The kernel hands out at most what
is asked for. While every `read` is interrupted the loop goes on. -/
def taskReadIoCb {σ : Type*} (codec : Cjson.Codec) (call : CallbackSem CoreCb Nat σ)
    (env : List UInt8 → MsgServer.RecvEnv) (c : TaskObjClient) (w : σ) :
    List ReadResult → RecvResult σ
  | [] => ⟨c, [], none⟩
  | .interrupted :: reads => taskReadIoCb codec call env c w reads
  | .failed :: _ => ⟨c.stopTaskClient.client, c.stopTaskClient.calls, none⟩
  | .bytes data :: _ =>
      if data = [] then ⟨c.stopTaskClient.client, c.stopTaskClient.calls, none⟩
      else recvData codec call (env (data.take bufLen)) c w

end TaskObjClient

end TaskMonitor
