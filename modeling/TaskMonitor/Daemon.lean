import TaskMonitor.TaskCore
import TaskMonitor.Library.StepMachine

/-! The daemon between its events: time passing, clients connecting, descriptors becoming
readable, and the clean-up of the client list. -/

namespace TaskMonitor

/-- `clients` are the connection objects that exist, by address. Addresses are not reused. -/
structure Daemon where
  registry : Registry
  clients : List (Nat × TaskObjClient)
  cliList : List Nat
  created : Nat
  alive : Bool

inductive DaemonOut where
  | task (i : Nat) (call : SysCall)
  | client (address : Nat) (call : SysCall)
  | timedOut (i : Nat)
  | served (address : Nat) (invoked : Option (Invocation CoreCb Nat)) (wire : List UInt8)
  | uncaught
  | dangling (address : Nat)

structure ReadEnv where
  reads : List ReadResult
  accepted : Bool
  mallocOk : Bool
  alloc : AllocSite → Bool
  outcomes : List WriteOutcome
  callback : CbEnv

def ReadEnv.recvEnv (env : ReadEnv) (data : List UInt8) : MsgServer.RecvEnv :=
  ⟨⟨data, env.accepted, env.mallocOk⟩, env.alloc, env.outcomes⟩

/-- `tick dt` lets `dt` pass. A timer that is due then expires once, and a task that it
restarts gets what `fork` returns for it. -/
inductive DaemonEvent where
  | tick (dt : ℚ) (fork : Nat → Int)
  | connect (pid fd : Int) (env : ConnectEnv)
  | readable (address : Nat) (env : ReadEnv)
  | clearClients

namespace Daemon

def findClient (d : Daemon) (address : Nat) : Option TaskObjClient :=
  (d.clients.find? (·.1 = address)).map Prod.snd

def setClient (d : Daemon) (address : Nat) (c : TaskObjClient) : Daemon :=
  { d with clients := (address, c) :: d.clients.filter (·.1 ≠ address) }

def deleteClient (d : Daemon) (address : Nat) : Daemon × List DaemonOut :=
  match d.findClient address with
  | none => (d, [.dangling address])
  | some c =>
      ({ d with clients := d.clients.filter (·.1 ≠ address) },
        c.stopTaskClient.calls.map (.client address) ++ [.client address (.deleteClient address)])

def newClient (d : Daemon) (fd pid : Int) (env : ConnectEnv) :
    Option Nat × Daemon × List DaemonOut :=
  let address := d.created
  let (made, calls) := TaskObjClient.create address fd pid env
  let outs := calls.map (.client address)
  match made with
  | none => (none, { d with created := address + 1 }, outs)
  | some c => (some address, { d with created := address + 1 }.setClient address c, outs)

def terminate (d : Daemon) : Daemon × List DaemonOut := ({ d with alive := false }, [.uncaught])

def setTask (d : Daemon) (i : Nat) (t : TaskObj) : Daemon :=
  { d with registry := { d.registry with taskList := d.registry.taskList.set i t } }

def stopTaskClient (d : Daemon) (i : Nat) (t : TaskObj) : Daemon × List DaemonOut :=
  let (d, gone) : Daemon × List DaemonOut :=
    match t.mClient with
    | none => (d, [])
    | some address => d.deleteClient address
  (d.setTask i t.stopTaskClient.task, gone)

def startTaskClient (d : Daemon) (i : Nat) (t : TaskObj) (fd : Int) (env : ConnectEnv) :
    Daemon × List DaemonOut :=
  let (d, gone) := d.stopTaskClient i t
  match d.newClient fd t.mPid env with
  | (none, d, outs) =>
      let (d, dead) := d.terminate
      (d, gone ++ outs ++ dead)
  | (some address, d, outs) =>
      (d.setTask i { t.stopTaskClient.task with mClient := some address }, gone ++ outs)

def recvClientConnect (d : Daemon) (pid fd : Int) (env : ConnectEnv) : Daemon × List DaemonOut :=
  match d.registry.taskList.findIdx? fun obj => obj.getTaskPid = pid with
  | some i =>
      match d.registry.taskList[i]? with
      | none => (d, [])
      | some t => d.startTaskClient i t fd env
  | none =>
      match d.newClient fd pid env with
      | (none, d, outs) =>
          let (d, dead) := d.terminate
          (d, outs ++ dead)
      | (some address, d, outs) => ({ d with cliList := d.cliList ++ [address] }, outs)

/-- `cli_list_clear_timer_cb`, from some position of the list on. Nothing leaves the list. -/
def clearClients (d : Daemon) : List Nat → Daemon × List DaemonOut
  | [] => (d, [])
  | address :: later =>
      let (d, outs) : Daemon × List DaemonOut :=
        match d.findClient address with
        | none => (d, [.dangling address])
        | some c => if c.isClientAvailable = 0 then d.deleteClient address else (d, [])
      let (d, outs') := d.clearClients later
      (d, outs ++ outs')

/-- The watcher of a connection fires. One that has outlived its object is left alone. -/
def readable (codec : Cjson.Codec) (d : Daemon) (address : Nat) (env : ReadEnv) :
    Daemon × List DaemonOut :=
  match d.findClient address with
  | none => (d, [.dangling address])
  | some c =>
      let r :=
        c.taskReadIoCb codec (coreCallbacks env.callback) env.recvEnv ⟨d.registry, []⟩ env.reads
      let after : CoreWorld := (r.parsed.map (·.world)).getD ⟨d.registry, []⟩
      let served := r.parsed.toList.map fun p => .served address p.invoked p.wire
      ({ d with registry := after.registry }.setClient address r.client,
        after.calls.map (fun call => .task call.1 call.2) ++ served ++
          r.calls.map (.client address))

/-- The timer as its expiry leaves it to the callback. -/
def rearm (timer : Timer) : Timer :=
  { timer with countdown := if timer.interval = 0 then none else some timer.interval }

def tickTask (dt : ℚ) (fork : Nat → Int) (i : Nat) (t : TaskObj) : TaskObj × List DaemonOut :=
  match t.mTimer with
  | none => (t, [])
  | some timer =>
      match timer.countdown with
      | none => (t, [])
      | some left =>
          if left ≤ dt then
            let r := taskTimeoutCb { t with mTimer := some (rearm timer) } (fork i)
            (r.task, .timedOut i :: r.calls.map (.task i))
          else ({ t with mTimer := some { timer with countdown := some (left - dt) } }, [])

def tick (d : Daemon) (dt : ℚ) (fork : Nat → Int) : Daemon × List DaemonOut :=
  let ticked := d.registry.taskList.mapIdx (tickTask dt fork)
  ({ d with registry := { d.registry with taskList := ticked.map Prod.fst } },
    (ticked.map Prod.snd).flatten)

def step (codec : Cjson.Codec) (d : Daemon) (e : DaemonEvent) : Daemon × List DaemonOut :=
  if !d.alive then (d, [])
  else
    match e with
    | .tick dt fork => d.tick dt fork
    | .connect pid fd env => d.recvClientConnect pid fd env
    | .readable address env => d.readable codec address env
    | .clearClients => d.clearClients d.cliList

def machine (codec : Cjson.Codec) : StepMachine Daemon DaemonEvent DaemonOut := ⟨step codec⟩

end Daemon

end TaskMonitor
