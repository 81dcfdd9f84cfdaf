import TaskMonitor.Library.CText

/-! `TaskServer` of `TaskServer.cpp`: the listening socket and its watcher. -/

namespace TaskMonitor

open CText

def taskUnixPath : Text := text "task_unix_path"

theorem sunPathSize_pos : 0 < 108 := by decide

structure TaskServer where
  mUnixPath : Text
  mServerFd : Int
  mClientCount : UInt32
  mServerIo : Option Nat
  deriving DecidableEq

/-- What `startServer` meets: the results of `socket`, `bind` and `listen`, and the handle of the
watcher. -/
structure ServerEnv where
  socket : Int
  bind : Int
  listen : Int
  watch : Option Nat

inductive ServerCall where
  | socket (fd : Int)
  | bind (fd : Int) (path : Text)
  | listen (fd : Int)
  | close (fd : Int)
  | watchCreate (fd : Int) (io : Nat)
  | watchDestroy (io : Nat)
  deriving DecidableEq

structure TaskServerResult where
  server : TaskServer
  calls : List ServerCall
  ret : Int

namespace TaskServer

def new (unixPath : Text) : TaskServer := ⟨unixPath, -1, 0, none⟩

def startServer (s : TaskServer) (env : ServerEnv) : TaskServerResult :=
  let fd := env.socket
  let path := (strncpy 108 sunPathSize_pos s.mUnixPath).text
  if fd < 0 then ⟨s, [], -1⟩
  else if env.bind < 0 then ⟨s, [.socket fd, .close fd], -1⟩
  else if env.listen ≠ 0 then ⟨s, [.socket fd, .bind fd path, .close fd], -1⟩
  else
    match env.watch with
    | none =>
        ⟨{ s with mServerIo := none }, [.socket fd, .bind fd path, .listen fd, .close fd], -1⟩
    | some io =>
        ⟨{ s with mServerIo := some io, mServerFd := fd },
          [.socket fd, .bind fd path, .listen fd, .watchCreate fd io], 0⟩

def stopServer (s : TaskServer) : TaskServerResult :=
  let watched : List ServerCall := s.mServerIo.toList.map .watchDestroy
  let opened : List ServerCall := if s.mServerFd > 0 then [.close s.mServerFd] else []
  ⟨{ s with
      mClientCount := 0
      mServerIo := none
      mServerFd := if s.mServerFd > 0 then -1 else s.mServerFd }, watched ++ opened, 0⟩

def restartServer (s : TaskServer) (env : ServerEnv) : TaskServerResult :=
  let stopped := s.stopServer
  let started := stopped.server.startServer env
  { started with calls := stopped.calls ++ started.calls }

end TaskServer

end TaskMonitor
