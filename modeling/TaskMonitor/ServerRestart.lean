import TaskMonitor.TaskServer
import TaskMonitor.Library.StepMachine

/-! Runs of one `TaskServer`: its starts, stops and restarts, with what they leave behind in the
process and in the filesystem. -/

namespace TaskMonitor

open CText

structure ServerSocket where
  fd : Int
  bound : Option Text
  listening : Bool
  deriving DecidableEq

/-- The server with what lives outside it: the paths that exist, the open server sockets, and the
live watchers with their descriptors. -/
structure ServerWorld where
  server : TaskServer
  paths : List Text
  sockets : List ServerSocket
  watchers : List (Nat × Int)

/-- The descriptor and the handle that a start gets. -/
inductive ServerEvent where
  | start (fd io : Nat)
  | stop
  | restart (fd io : Nat)

namespace ServerWorld

def init (unixPath : Text) (paths : List Text) : ServerWorld := ⟨.new unixPath, paths, [], []⟩

def perform (w : ServerWorld) : ServerCall → ServerWorld
  | .socket fd => { w with sockets := ⟨fd, none, false⟩ :: w.sockets }
  | .bind fd path =>
      { w with
        paths := path :: w.paths
        sockets := w.sockets.map fun s => if s.fd = fd then { s with bound := some path } else s }
  | .listen fd =>
      { w with
        sockets := w.sockets.map fun s => if s.fd = fd then { s with listening := true } else s }
  | .close fd => { w with sockets := w.sockets.filter (·.fd ≠ fd) }
  | .watchCreate fd io => { w with watchers := (io, fd) :: w.watchers }
  | .watchDestroy io => { w with watchers := w.watchers.filter (·.1 ≠ io) }

/-- The path that `startServer` binds to. -/
def boundPath (w : ServerWorld) : Text := (strncpy 108 sunPathSize_pos w.server.mUnixPath).text

/-- `bind` fails where the path exists. The other calls of a start succeed. -/
def env (w : ServerWorld) (fd io : Nat) : ServerEnv :=
  ⟨fd, if w.boundPath ∈ w.paths then -1 else 0, 0, some io⟩

def respond (w : ServerWorld) : ServerEvent → TaskServerResult
  | .start fd io => w.server.startServer (w.env fd io)
  | .stop => w.server.stopServer
  | .restart fd io => w.server.restartServer (w.env fd io)

def step (w : ServerWorld) (e : ServerEvent) : ServerWorld × List Int :=
  let r := w.respond e
  (r.calls.foldl perform { w with server := r.server }, [r.ret])

def machine : StepMachine ServerWorld ServerEvent Int := ⟨step⟩

theorem machine_next (w : ServerWorld) (e : ServerEvent) : machine.next w e = (w.step e).1 := rfl

theorem machine_emit (w : ServerWorld) (e : ServerEvent) : machine.emit w e = (w.step e).2 := rfl

def Fresh (w : ServerWorld) : ServerEvent → Prop
  | .start fd _ => ∀ s ∈ w.sockets, s.fd ≠ fd
  | _ => True

def Listening (w : ServerWorld) : Prop :=
  ∃ s ∈ w.sockets, s.fd = w.server.mServerFd ∧ s.listening = true

structure Serving (w : ServerWorld) : Prop where
  single : ∃ s, w.sockets = [s] ∧ s.fd = w.server.mServerFd ∧ s.bound = some w.server.mUnixPath
  watched : ∃ io, w.server.mServerIo = some io ∧ (io, w.server.mServerFd) ∈ w.watchers

def Restarts (w : ServerWorld) (e : ServerEvent) : Prop :=
  match e with
  | .start _ _ => ¬ w.Listening → machine.emit w e = [0] ∧ (machine.next w e).Serving
  | .stop => (machine.next w e).sockets = []
  | .restart _ _ => machine.emit w e = [0] ∧ (machine.next w e).Serving

/-- The path can be bound to as it is: it fits `sun_path`, and it does not exist. -/
def Bindable (w : ServerWorld) : Prop :=
  w.server.mUnixPath.length < 108 ∧ 0 ∉ w.server.mUnixPath ∧ w.server.mUnixPath ∉ w.paths

/-- The steps that do what they should: the path is free for a start that matters and for a
restart, and a stop does not meet descriptor 0. -/
def Restartable (w : ServerWorld) : ServerEvent → Prop
  | .start _ _ => w.Listening ∨ w.Bindable
  | .stop => w.server.mServerFd ≠ 0
  | .restart _ _ => w.Bindable

theorem boundPath_eq_iff (w : ServerWorld) :
    w.boundPath = w.server.mUnixPath ↔
      w.server.mUnixPath.length < 108 ∧ 0 ∉ w.server.mUnixPath := by
  constructor
  · intro same
    rw [← same]
    exact ⟨(strncpy 108 sunPathSize_pos w.server.mUnixPath).fits,
      (strncpy 108 sunPathSize_pos w.server.mUnixPath).noNul⟩
  · intro fits
    exact congrArg CharArray.text
      (strncpy_text sunPathSize_pos ⟨w.server.mUnixPath, fits.1, fits.2⟩)

theorem bindable_iff (w : ServerWorld) :
    w.Bindable ↔ w.boundPath = w.server.mUnixPath ∧ w.boundPath ∉ w.paths := by
  rw [boundPath_eq_iff, Bindable]
  constructor
  · intro bindable
    have same := w.boundPath_eq_iff.mpr ⟨bindable.1, bindable.2.1⟩
    exact ⟨⟨bindable.1, bindable.2.1⟩, same ▸ bindable.2.2⟩
  · intro free
    have same := w.boundPath_eq_iff.mpr free.1
    exact ⟨free.1.1, free.1.2, same ▸ free.2⟩

theorem step_taken {w : ServerWorld} (taken : w.boundPath ∈ w.paths) (fd io : Nat) :
    w.step (.start fd io) = ({ w with sockets := w.sockets.filter (·.fd ≠ fd) }, [-1]) := by
  have opened : ¬ (fd : Int) < 0 := by omega
  simp [step, respond, TaskServer.startServer, env, taken, opened, perform]

structure Idle (w : ServerWorld) : Prop where
  sockets : w.sockets = []
  watchers : w.watchers = []
  mServerFd : w.server.mServerFd = -1
  mServerIo : w.server.mServerIo = none

structure Open (w : ServerWorld) (fd io : Nat) : Prop where
  sockets : w.sockets = [⟨fd, some w.server.mUnixPath, true⟩]
  watchers : w.watchers = [(io, (fd : Int))]
  mServerFd : w.server.mServerFd = fd
  mServerIo : w.server.mServerIo = some io
  taken : w.boundPath ∈ w.paths

theorem step_free {w : ServerWorld} (idle : w.Idle) (free : w.boundPath ∉ w.paths) (fd io : Nat) :
    w.step (.start fd io) =
      (⟨{ w.server with mServerIo := some io, mServerFd := fd }, w.boundPath :: w.paths,
        [⟨fd, some w.boundPath, true⟩], [(io, fd)]⟩, [0]) := by
  have opened : ¬ (fd : Int) < 0 := by omega
  have path : (strncpy 108 sunPathSize_pos w.server.mUnixPath).text = w.boundPath := rfl
  simp [step, respond, TaskServer.startServer, env, free, opened, perform, idle.sockets,
    idle.watchers, path]

theorem step_stop_idle {w : ServerWorld} (idle : w.Idle) :
    w.step .stop = ({ w with server := { w.server with mClientCount := 0 } }, [0]) := by
  simp [step, respond, TaskServer.stopServer, idle.mServerFd, idle.mServerIo]

theorem step_stop_open {w : ServerWorld} {fd io : Nat} (opened : w.Open fd io) :
    w.step .stop =
      ({ w with
          server := { w.server with
            mClientCount := 0, mServerIo := none, mServerFd := if fd = 0 then 0 else -1 }
          sockets := if fd = 0 then w.sockets else []
          watchers := [] }, [0]) := by
  by_cases zero : fd = 0
  · simp [step, respond, TaskServer.stopServer, opened.mServerFd, opened.mServerIo,
      opened.watchers, zero, perform]
  · have positive : 0 < fd := Nat.pos_of_ne_zero zero
    simp [step, respond, TaskServer.stopServer, opened.mServerFd, opened.mServerIo,
      opened.watchers, opened.sockets, zero, positive, perform]

theorem foldl_perform_server (w : ServerWorld) (server : TaskServer) (calls : List ServerCall) :
    calls.foldl perform { w with server := server } =
      { calls.foldl perform w with server := server } := by
  induction calls generalizing w with
  | nil => rfl
  | cons call calls ih =>
      have first : ({ w with server := server } : ServerWorld).perform call =
          { w.perform call with server := server } := by cases call <;> rfl
      rw [List.foldl_cons, List.foldl_cons, first, ih]

theorem step_stop_server (w : ServerWorld) :
    (w.step .stop).1 = { w.server.stopServer.calls.foldl perform w with
      server := w.server.stopServer.server } :=
  foldl_perform_server w _ _

theorem step_stop_paths (w : ServerWorld) : (w.step .stop).1.paths = w.paths := by
  rw [step_stop_server, TaskServer.stopServer]
  dsimp only
  cases w.server.mServerIo <;> split <;> rfl

theorem step_stop_mUnixPath (w : ServerWorld) :
    (w.step .stop).1.server.mUnixPath = w.server.mUnixPath := by
  rw [step_stop_server]
  rfl

theorem step_restart (w : ServerWorld) (fd io : Nat) :
    w.step (.restart fd io) = (w.step .stop).1.step (.start fd io) := by
  have same : (w.step .stop).1.env fd io = w.env fd io := by
    rw [env, env, boundPath, boundPath, step_stop_paths, step_stop_mUnixPath]
  have server : (w.step .stop).1.server = w.server.stopServer.server := by
    rw [step_stop_server]
  have started : (w.step .stop).1.respond (.start fd io) =
      w.server.stopServer.server.startServer (w.env fd io) := by
    rw [respond, same, server]
  rw [step.eq_def _ (.start fd io), started, step_stop_server, step]
  dsimp only [respond, TaskServer.restartServer]
  rw [List.foldl_append, foldl_perform_server w]

inductive Phase (w : ServerWorld) : Prop where
  | idle (idle : w.Idle)
  | opened (fd io : Nat) (opened : w.Open fd io)

theorem Idle.not_listening {w : ServerWorld} (idle : w.Idle) : ¬ w.Listening := by
  intro listening
  rcases listening with ⟨s, member, _⟩
  rw [idle.sockets] at member
  cases member

theorem Open.listening {w : ServerWorld} {fd io : Nat} (opened : w.Open fd io) : w.Listening := by
  refine ⟨⟨fd, some w.server.mUnixPath, true⟩, ?_, opened.mServerFd.symm, rfl⟩
  rw [opened.sockets]
  exact List.mem_singleton_self _

theorem Open.not_bindable {w : ServerWorld} {fd io : Nat} (opened : w.Open fd io) :
    ¬ w.Bindable := by
  intro bindable
  exact (w.bindable_iff.mp bindable).2 opened.taken

theorem Idle.start_iff {w : ServerWorld} (idle : w.Idle) (fd io : Nat) :
    machine.emit w (.start fd io) = [0] ∧ (machine.next w (.start fd io)).Serving ↔
      w.Bindable := by
  rw [bindable_iff, machine_emit, machine_next]
  by_cases taken : w.boundPath ∈ w.paths
  · rw [step_taken taken]
    constructor
    · intro started
      cases started.1
    · intro free
      exact absurd taken free.2
  · rw [step_free idle taken]
    constructor
    · intro started
      rcases started.2.single with ⟨s, alone, _, bound⟩
      rw [← List.head_eq_of_cons_eq alone] at bound
      exact ⟨Option.some.inj bound, taken⟩
    · intro free
      refine ⟨rfl, ⟨_, rfl, rfl, congrArg some free.1⟩, io, rfl, List.mem_cons_self⟩

theorem Idle.start_open {w : ServerWorld} (idle : w.Idle) (bindable : w.Bindable) (fd io : Nat) :
    (machine.next w (.start fd io)).Open fd io := by
  rcases w.bindable_iff.mp bindable with ⟨same, free⟩
  rw [machine_next, step_free idle free, same]
  have taken : w.boundPath ∈ w.server.mUnixPath :: w.paths := by
    rw [same]
    exact List.mem_cons_self
  exact ⟨rfl, rfl, rfl, rfl, taken⟩

theorem Idle.stop {w : ServerWorld} (idle : w.Idle) : (machine.next w .stop).Idle := by
  rw [machine_next, step_stop_idle idle]
  exact ⟨idle.sockets, idle.watchers, idle.mServerFd, idle.mServerIo⟩

theorem Open.stop_iff {w : ServerWorld} {fd io : Nat} (opened : w.Open fd io) :
    (machine.next w .stop).sockets = [] ↔ w.server.mServerFd ≠ 0 := by
  rw [machine_next, step_stop_open opened, opened.mServerFd]
  by_cases zero : fd = 0
  · simp [zero, opened.sockets]
  · simp [zero]

theorem Open.stop {w : ServerWorld} {fd io : Nat} (opened : w.Open fd io)
    (nonzero : w.server.mServerFd ≠ 0) : (machine.next w .stop).Idle := by
  have positive : fd ≠ 0 := by
    rw [opened.mServerFd] at nonzero
    omega
  rw [machine_next, step_stop_open opened, if_neg positive, if_neg positive]
  exact ⟨rfl, rfl, rfl, rfl⟩

theorem Open.start {w : ServerWorld} {fd io : Nat} (opened : w.Open fd io) {fd' : Nat}
    (io' : Nat) (fresh : w.Fresh (.start fd' io')) :
    (machine.next w (.start fd' io')).Open fd io := by
  have other : (fd : Int) ≠ fd' := by
    have distinct := fresh ⟨fd, some w.server.mUnixPath, true⟩
    rw [opened.sockets] at distinct
    exact distinct (List.mem_singleton_self _)
  rw [machine_next, step_taken opened.taken]
  refine ⟨?_, opened.watchers, opened.mServerFd, opened.mServerIo, opened.taken⟩
  rw [opened.sockets]
  simp [other]

theorem next_restart (w : ServerWorld) (fd io : Nat) :
    machine.next w (.restart fd io) = machine.next (machine.next w .stop) (.start fd io) :=
  congrArg Prod.fst (w.step_restart fd io)

theorem emit_restart (w : ServerWorld) (fd io : Nat) :
    machine.emit w (.restart fd io) = machine.emit (machine.next w .stop) (.start fd io) :=
  congrArg Prod.snd (w.step_restart fd io)

theorem bindable_stop (w : ServerWorld) : (machine.next w .stop).Bindable ↔ w.Bindable := by
  have paths : (machine.next w .stop).paths = w.paths := w.step_stop_paths
  have path : (machine.next w .stop).server.mUnixPath = w.server.mUnixPath := w.step_stop_mUnixPath
  rw [Bindable, Bindable, paths, path]

theorem Open.restart_fails {w : ServerWorld} {fd io : Nat} (opened : w.Open fd io)
    (fd' io' : Nat) : machine.emit w (.restart fd' io') = [-1] := by
  have taken : (machine.next w .stop).boundPath ∈ (machine.next w .stop).paths := by
    have paths : (machine.next w .stop).paths = w.paths := w.step_stop_paths
    have path : (machine.next w .stop).server.mUnixPath = w.server.mUnixPath :=
      w.step_stop_mUnixPath
    rw [paths, boundPath, path]
    exact opened.taken
  rw [emit_restart]
  exact congrArg Prod.snd (step_taken taken fd' io')

/-- A step does what it should exactly under its condition, and then the run goes on. -/
structure GoesOn (w : ServerWorld) (e : ServerEvent) : Prop where
  iff : w.Restarts e ↔ w.Restartable e
  phase : w.Restarts e → (machine.next w e).Phase

theorem Idle.goesOn {w : ServerWorld} (idle : w.Idle) (e : ServerEvent) : w.GoesOn e := by
  cases e with
  | start fd io =>
      have same : w.Restarts (.start fd io) ↔ w.Bindable :=
        (imp_iff_right idle.not_listening).trans (idle.start_iff fd io)
      refine ⟨same.trans (or_iff_right idle.not_listening).symm, ?_⟩
      intro restarts
      exact .opened fd io (idle.start_open (same.mp restarts) fd io)
  | stop =>
      have minus_one : w.server.mServerFd ≠ 0 := by
        rw [idle.mServerFd]
        decide
      exact ⟨iff_of_true idle.stop.sockets minus_one, fun _ => .idle idle.stop⟩
  | restart fd io =>
      have same : w.Restarts (.restart fd io) ↔ w.Bindable := by
        rw [Restarts, emit_restart, next_restart, ← bindable_stop]
        exact idle.stop.start_iff fd io
      refine ⟨same, ?_⟩
      intro restarts
      have bindable := w.bindable_stop.mpr (same.mp restarts)
      rw [next_restart]
      exact .opened fd io (idle.stop.start_open bindable fd io)

theorem Open.goesOn {w : ServerWorld} {fd io : Nat} (opened : w.Open fd io) {e : ServerEvent}
    (fresh : w.Fresh e) : w.GoesOn e := by
  cases e with
  | start fd' io' =>
      have listening := opened.listening
      exact ⟨iff_of_true (fun deaf => absurd listening deaf) (Or.inl listening),
        fun _ => .opened fd io (opened.start io' fresh)⟩
  | stop =>
      refine ⟨opened.stop_iff, ?_⟩
      intro closed
      exact .idle (opened.stop (opened.stop_iff.mp closed))
  | restart fd' io' =>
      have fails : ¬ w.Restarts (.restart fd' io') := by
        intro restarts
        have started := restarts.1
        rw [opened.restart_fails] at started
        cases started
      exact ⟨iff_of_false fails opened.not_bindable, fun restarts => absurd restarts fails⟩

theorem Phase.goesOn {w : ServerWorld} (phase : w.Phase) {e : ServerEvent} (fresh : w.Fresh e) :
    w.GoesOn e := by
  cases phase with
  | idle idle => exact idle.goesOn e
  | opened fd io opened => exact opened.goesOn fresh

end ServerWorld

open ServerWorld

/-- The path outlives its socket, so a server starts once: all steps of a run do what they should
if and only if no restart and no start of a server that is not listening finds the path, the path
fits `sun_path`, and no stop meets descriptor 0. -/
theorem restarts_iff (unixPath : Text) (paths : List Text) {es : List ServerEvent}
    (fresh : machine.AllSteps Fresh (init unixPath paths) es) :
    machine.AllSteps Restarts (init unixPath paths) es ↔
      machine.AllSteps Restartable (init unixPath paths) es := by
  have begun : (init unixPath paths).Phase := .idle ⟨rfl, rfl, rfl, rfl⟩
  have together := machine.allSteps_congr (P := fun w e => w.Fresh e ∧ w.Restarts e)
    (Q := fun w e => w.Fresh e ∧ w.Restartable e) ServerWorld.Phase
    (fun w e phase => and_congr_right fun now => (phase.goesOn now).iff)
    (fun w e phase both => (phase.goesOn both.1).phase both.2) begun es
  rw [StepMachine.allSteps_and, StepMachine.allSteps_and] at together
  exact (and_iff_right fresh).symm.trans (together.trans (and_iff_right fresh))

def startedOnce : List ServerEvent := [.start 5 1, .start 6 2, .stop]

theorem restarts_once : machine.AllSteps Restarts (init taskUnixPath []) startedOnce := by
  have fresh : machine.AllSteps Fresh (init taskUnixPath []) startedOnce := by
    refine ⟨?_, ?_, trivial, trivial⟩ <;> rw [Fresh] <;> decide +kernel
  have restartable : machine.AllSteps Restartable (init taskUnixPath []) startedOnce := by
    refine ⟨Or.inr ?_, Or.inl ?_, ?_, trivial⟩
    · rw [Bindable]
      decide +kernel
    · rw [Listening]
      decide +kernel
    · rw [Restartable]
      decide +kernel
  exact (restarts_iff taskUnixPath [] fresh).mpr restartable

def startedTwice : List ServerEvent := [.start 5 1, .stop, .start 5 2]

/-- The second start finds the path of the first. -/
theorem second_start_fails :
    machine.AllSteps Fresh (init taskUnixPath []) startedTwice ∧
      ¬ machine.AllSteps Restarts (init taskUnixPath []) startedTwice := by
  constructor
  · refine ⟨?_, trivial, ?_, trivial⟩ <;> rw [Fresh] <;> decide +kernel
  · intro restarts
    rcases restarts with ⟨_, _, again, _⟩
    have deaf : ¬ (machine.run (init taskUnixPath []) [.start 5 1, .stop]).Listening := by
      rw [Listening]
      decide +kernel
    have started := (again deaf).1
    revert started
    decide +kernel

end TaskMonitor
