import TaskMonitor.MsgClient
import TaskMonitor.TaskObjClient

/-! The client library of `task_client.cpp`: its globals and the callbacks of its event loop. -/

namespace TaskMonitor

open CText Cjson

inductive LibCb where
  | heartbeatReqCb
  deriving DecidableEq

/-- A watcher of `libev_api`: its descriptor, and its user data, the address of a `MsgClient`. -/
structure Watcher where
  fd : Int
  data : Nat
  deriving DecidableEq

/-- The globals. `pending` counts the reconnect events that are posted and not delivered yet,
and `created` the `MsgClient` objects so far, each with an address of its own. While a callback
has not returned the event loop delivers nothing. -/
structure TaskClient where
  s_client_fd : Int
  s_client_io : Option Watcher
  s_msg_client : Option (Nat × ClientWorld LibCb)
  s_heartbeat_timer : Timer
  s_heartbeat_timeout : ℚ
  pending : Nat
  created : Nat
  returned : Bool

inductive TaskClientOut where
  | opened (fd : Int)
  | closed (fd : Int)
  | unwatched (io : Watcher)
  | connected (client : Nat)
  | failed (client : Nat)
  | posted
  | deleted (client : Nat)
  | message (client : Nat) (out : ClientOut LibCb)
  | sent (client : Nat) (bytes : List UInt8)
  | dangling (client : Nat)
  | uncaught

/-- What one `connectToServer` call meets: the results of `socket` and `connect`, the memory of
the `MsgClient`, absent if its creation throws, the creation of the watcher, and the first send. -/
structure ReconnectEnv where
  socket : Int
  connectOk : Bool
  clientMemory : Option UInt32
  watchOk : Bool
  send : SendEnv

structure ClientReadEnv where
  reads : List ReadResult
  accepted : Bool
  mallocOk : Bool

inductive TaskClientEvent where
  | readable (env : ClientReadEnv)
  | heartbeatTimer (send : SendEnv)
  | requestTimer (timer : Nat)
  | reconnect (env : ReconnectEnv)

def globalBufLen : Nat := 1024

namespace TaskClient

def sendEventDelay (s : TaskClient) : TaskClient := { s with pending := s.pending + 1 }

def heartbeatReqCb (s : TaskClient) (ret : Int) (rsp : Option RspData) : TaskClient :=
  match rsp with
  | some (.heartbeat rsp) =>
      if ret = EventErrCode.succ.code ∧ rsp.heatbeat > 1 ∧
          rsp.heatbeat ≠ s.s_heartbeat_timeout then
        { s with
          s_heartbeat_timer := (Timer.create rsp.heatbeat rsp.heatbeat).start
          s_heartbeat_timeout := rsp.heatbeat }
      else s
  | _ => s

def runCallbacks (s : TaskClient) : List (ClientOut LibCb) → TaskClient
  | [] => s
  | .called call :: outs => (s.heartbeatReqCb call.ret call.data).runCallbacks outs
  | _ :: outs => s.runCallbacks outs

def deleteMsgClient (client : Nat) (w : ClientWorld LibCb) : List TaskClientOut :=
  (MsgClient.destroy w).2.map (.message client) ++ [.deleted client]

def clearGlobalData (s : TaskClient) : TaskClient × List TaskClientOut :=
  let closed : List TaskClientOut :=
    if s.s_client_fd > 0 then [.closed s.s_client_fd] else []
  let unwatched : List TaskClientOut := s.s_client_io.toList.map .unwatched
  let deleted : List TaskClientOut :=
    match s.s_msg_client with
    | none => []
    | some (client, w) => deleteMsgClient client w
  ({ s with
      s_client_fd := if s.s_client_fd > 0 then -1 else s.s_client_fd
      s_client_io := none
      s_msg_client := none
      s_heartbeat_timer := s.s_heartbeat_timer.stop }, closed ++ unwatched ++ deleted)

def setGlobalData (s : TaskClient) (fd : Int) (io : Watcher) (client : Nat × ClientWorld LibCb) :
    TaskClient :=
  { s with s_client_fd := fd, s_client_io := some io, s_msg_client := some client }

def sendReqHearbeat (codec : Codec) (pid : Int) (s : TaskClient) (env : SendEnv) :
    TaskClient × List TaskClientOut :=
  match s.s_msg_client with
  | none => (s, [])
  | some (client, w) =>
      let r := MsgClient.sendReqHearbeat codec env w pid s.s_heartbeat_timeout
        (some .heartbeatReqCb)
      ({ s with s_msg_client := some (client, r.world), returned := r.ret.isSome },
        r.outs.map (.message client) ++ [.sent client r.sent])

/-- `connect` fails with -1. There is no result where the creation of the `MsgClient` throws:
the test of its address is never reached with NULL. -/
def connectToServer (codec : Codec) (pid : Int) (s : TaskClient) (env : ReconnectEnv) :
    Option Int × TaskClient × List TaskClientOut :=
  let (s, outs) := s.clearGlobalData
  if env.socket < 0 then (some (-1), s, outs)
  else
    let outs := outs ++ [.opened env.socket]
    if !env.connectOk then (some (-1), s, outs ++ [.closed env.socket])
    else
      match env.clientMemory with
      | none => (none, s, outs)
      | some uninit =>
          let client := s.created
          let w : ClientWorld LibCb := MsgClient.start env.socket uninit
          let s := { s with created := client + 1 }
          if !env.watchOk then
            (some (-1), s, outs ++ deleteMsgClient client w ++ [.closed env.socket])
          else
            let s := s.setGlobalData env.socket ⟨env.socket, client⟩ (client, w)
            let (s, sent) := s.sendReqHearbeat codec pid env.send
            let timer :=
              if s.returned then s.s_heartbeat_timer.restart else s.s_heartbeat_timer
            (some env.socket, { s with s_heartbeat_timer := timer },
              outs ++ .connected client :: sent)

/-- An exception is caught nowhere: the callback does not return. -/
def connectServerEventCb (codec : Codec) (pid : Int) (s : TaskClient) (env : ReconnectEnv) :
    TaskClient × List TaskClientOut :=
  match s.connectToServer codec pid env with
  | (none, s, outs) => ({ s with returned := false }, outs ++ [.uncaught])
  | (some fd, s, outs) => if fd < 0 then (s.sendEventDelay, outs ++ [.posted]) else (s, outs)

def instInitCb (codec : Codec) (pid : Int) (s : TaskClient) (env : ReconnectEnv) :
    TaskClient × List TaskClientOut :=
  s.connectServerEventCb codec pid env

/-- The globals at the start of the event loop, which begins with `instInitCb`. -/
def threadStartCb (instOk : Bool) (random : UInt32) (timerOk : Bool) : Option TaskClient :=
  if !instOk then none
  else if !timerOk then none
  else
    some ⟨-1, none, none, .create random.toNat defaultHeartbeatTimeout, defaultHeartbeatTimeout, 0,
      0, true⟩

def recvData (codec : Codec) (s : TaskClient) (client : Nat) (w : ClientWorld LibCb)
    (call : RecvCall) : Int × TaskClient × List TaskClientOut :=
  let r := MsgClient.recvData codec w call []
  let (after, outs) := r.parsed.getD (w, [])
  let after := { after with client := { after.client with mRb := r.rb } }
  (r.ret, { s with s_msg_client := some (client, after) }.runCallbacks outs,
    outs.map (.message client))

def fail (s : TaskClient) (client : Nat) : TaskClient × List TaskClientOut :=
  (s.sendEventDelay, [.failed client, .posted])

/-- The loop of `client_readio_cb`, one result for each `read`. An error that is not `EINTR`
does not end it. After the last result the callback has not returned yet. -/
def clientReadioCb (codec : Codec) (accepted mallocOk : Bool) (client : Nat)
    (w : ClientWorld LibCb) (s : TaskClient) : List ReadResult → TaskClient × List TaskClientOut
  | [] => ({ s with returned := false }, [])
  | .interrupted :: reads => clientReadioCb codec accepted mallocOk client w s reads
  | .failed :: reads =>
      let (s, outs) := s.fail client
      let (s, later) := clientReadioCb codec accepted mallocOk client w s reads
      (s, outs ++ later)
  | .bytes data :: _ =>
      if data = [] then s.fail client
      else
        let (ret, s, outs) :=
          s.recvData codec client w ⟨data.take globalBufLen, accepted, mallocOk⟩
        if ret ≠ 0 then
          let (s, later) := s.fail client
          (s, outs ++ later)
        else (s, outs)

def readable (codec : Codec) (s : TaskClient) (env : ClientReadEnv) :
    TaskClient × List TaskClientOut :=
  match s.s_client_io, s.s_msg_client with
  | some io, some (client, w) =>
      if io.data = client then clientReadioCb codec env.accepted env.mallocOk client w s env.reads
      else (s, [.dangling io.data])
  | some io, none => (s, [.dangling io.data])
  | none, _ => (s, [])

def heartbeatTimerCb (codec : Codec) (pid : Int) (s : TaskClient) (env : SendEnv) :
    TaskClient × List TaskClientOut :=
  if s.s_heartbeat_timer.countdown.isNone then (s, [])
  else
    { s with s_heartbeat_timer := s.s_heartbeat_timer.restart }.sendReqHearbeat codec pid env

def requestTimerCb (codec : Codec) (s : TaskClient) (timer : Nat) :
    TaskClient × List TaskClientOut :=
  match s.s_msg_client with
  | none => (s, [])
  | some (client, w) =>
      let (after, outs) := MsgClient.step codec w (.expire timer [])
      ({ s with s_msg_client := some (client, after) }.runCallbacks outs,
        outs.map (.message client))

def deliver (codec : Codec) (pid : Int) (s : TaskClient) :
    TaskClientEvent → TaskClient × List TaskClientOut
  | .readable env => s.readable codec env
  | .heartbeatTimer env => s.heartbeatTimerCb codec pid env
  | .requestTimer timer => s.requestTimerCb codec timer
  | .reconnect env =>
      if s.pending = 0 then (s, [])
      else { s with pending := s.pending - 1 }.connectServerEventCb codec pid env

def step (codec : Codec) (pid : Int) (s : TaskClient) (e : TaskClientEvent) :
    TaskClient × List TaskClientOut :=
  if s.returned then s.deliver codec pid e else (s, [])

def machine (codec : Codec) (pid : Int) : StepMachine TaskClient TaskClientEvent TaskClientOut :=
  ⟨step codec pid⟩

end TaskClient

end TaskMonitor
