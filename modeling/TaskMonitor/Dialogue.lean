import TaskMonitor.ServerReply
import TaskMonitor.RequestCallbacks

/-! A client and the daemon's end of its connection, with the bytes that are on the way between
them.

The socket hands over what was written to it, in pieces of any size. The callbacks of the client
send nothing, as those of `task_client.cpp` and `task_cli.cpp`. Other connections and the timers
of the daemon work on its state between any two steps. -/

namespace TaskMonitor

open CText Cjson

structure Dialogue (κ κ' υ σ : Type*) where
  world : ClientWorld κ
  toServer : List UInt8
  server : MsgServer κ' υ
  up : Bool
  state : σ
  toClient : List UInt8

/-- One `read` of at most so many bytes, whether the ring buffer takes them, and whether `malloc`
works for a frame. -/
structure ReadTurn where
  length : Nat
  accepted : Bool
  mallocOk : Bool
  deriving DecidableEq

def ReadTurn.call (turn : ReadTurn) (wire : List UInt8) : RecvCall :=
  ⟨wire.take turn.length, turn.accepted, turn.mallocOk⟩

structure ServeEnv (γ : Type*) where
  alloc : AllocSite → Bool
  outcomes : List WriteOutcome
  callback : γ

inductive DialogueEvent (κ γ σ : Type*) where
  | send (a : SendArgs κ)
  | expire (timer : Nat)
  | serverReads (turn : ReadTurn) (env : ServeEnv γ)
  | clientReads (turn : ReadTurn)
  | others (w : σ)

inductive DialogueOut (κ κ' υ γ σ : Type*) where
  | asked (n : Nat) (reqId : UInt32) (a : SendArgs κ)
  | handled (package : Package) (env : ServeEnv γ) (before : σ)
      (invoked : Option (Invocation κ' υ))
  | answered (package : Package) (calls : List (Call κ))
  | timedOut (call : Call κ)

namespace Dialogue

variable {κ κ' υ γ σ : Type*}

def start (fd : Int) (uninit : UInt32) (server : MsgServer κ' υ) (w : σ) : Dialogue κ κ' υ σ :=
  ⟨MsgClient.start fd uninit, [], { server with mRb := .create }, true, w, []⟩

def send (d : Dialogue κ κ' υ σ) (a : SendArgs κ) :
    Dialogue κ κ' υ σ × List (DialogueOut κ κ' υ γ σ) :=
  let r := MsgClient.sendRequest d.world a
  ({ d with world := r.world, toServer := d.toServer ++ r.sent },
    [.asked r.world.issued r.world.client.mCurReqId a])

def expire (d : Dialogue κ κ' υ σ) (timer : Nat) :
    Dialogue κ κ' υ σ × List (DialogueOut κ κ' υ γ σ) :=
  match d.world.timers.find? (·.1 = timer) with
  | none => (d, [])
  | some (_, data) =>
      let (world, outs) := MsgClient.msgClientReqTimerCb d.world data []
      ({ d with world := world }, (MsgClient.calls outs).map .timedOut)

/-- The watcher of the server's end fires when there is something to read. A `recvData` that does
not return 0 closes the connection. -/
def serverReads (codec : Codec) (call : γ → CallbackSem κ' υ σ) (d : Dialogue κ κ' υ σ)
    (turn : ReadTurn) (env : ServeEnv γ) : Dialogue κ κ' υ σ × List (DialogueOut κ κ' υ γ σ) :=
  if d.up = false ∨ d.toServer.take turn.length = [] then (d, [])
  else
    let r := MsgServer.recvData codec (call env.callback)
      ⟨turn.call d.toServer, env.alloc, env.outcomes⟩ d.server d.state
    ({ d with
        toServer := d.toServer.drop turn.length
        server := { d.server with mRb := r.rb }
        up := r.ret == 0
        state := (r.parsed.map (·.world)).getD d.state
        toClient := d.toClient ++ (r.parsed.map (·.wire)).getD [] },
      r.package.toList.map fun package =>
        .handled package env d.state (r.parsed.bind (·.invoked)))

def clientReads (codec : Codec) (d : Dialogue κ κ' υ σ) (turn : ReadTurn) :
    Dialogue κ κ' υ σ × List (DialogueOut κ κ' υ γ σ) :=
  if d.toClient.take turn.length = [] then (d, [])
  else
    let r := MsgClient.recvData codec d.world (turn.call d.toClient) []
    let after := (r.parsed.map Prod.fst).getD d.world
    ({ d with
        toClient := d.toClient.drop turn.length
        world := { after with client := { after.client with mRb := r.rb } } },
      r.package.toList.map fun package =>
        .answered package (MsgClient.calls ((r.parsed.map Prod.snd).getD [])))

def step (codec : Codec) (call : γ → CallbackSem κ' υ σ) (d : Dialogue κ κ' υ σ) :
    DialogueEvent κ γ σ → Dialogue κ κ' υ σ × List (DialogueOut κ κ' υ γ σ)
  | .send a => d.send a
  | .expire timer => d.expire timer
  | .serverReads turn env => d.serverReads codec call turn env
  | .clientReads turn => d.clientReads codec turn
  | .others w => ({ d with state := w }, [])

def machine (codec : Codec) (call : γ → CallbackSem κ' υ σ) :
    StepMachine (Dialogue κ κ' υ σ) (DialogueEvent κ γ σ) (DialogueOut κ κ' υ γ σ) :=
  ⟨step codec call⟩

end Dialogue

end TaskMonitor
