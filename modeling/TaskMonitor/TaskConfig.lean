import TaskMonitor.StartUp

/-! `task_config.cpp`: the configuration file, and the list of tasks that is made of it.

A list is the nodes that a walk from its head meets, and `list_add` puts a node first. -/

namespace TaskMonitor

open CText Cjson

/-- An allocated `taskParm_t`: which of the allocations it is, and what it holds. -/
structure TaskNode where
  id : Nat
  parm : TaskParm

structure TaskConfig where
  maxTasks : UInt32
  queryIntvl : ℚ
  list : List TaskNode

structure ConfigWorld where
  s_global_config : TaskConfig
  allocated : Nat
  linked : ∀ node ∈ s_global_config.list, node.id < allocated

/-- The state of `parse_config_file` with its `tmpList`. -/
structure Parsing where
  world : ConfigWorld
  tmpList : List TaskNode
  linked : ∀ node ∈ tmpList, node.id < world.allocated

namespace Parsing

def start (w : ConfigWorld) : Parsing := ⟨w, [], by simp⟩

theorem listAdd_global (p : Parsing) :
    ∀ node ∈ p.world.s_global_config.list, node.id < p.world.allocated + 1 :=
  fun node member => Nat.lt_succ_of_lt (p.world.linked node member)

theorem listAdd_tmp (p : Parsing) (parm : TaskParm) :
    ∀ node ∈ ⟨p.world.allocated, parm⟩ :: p.tmpList, node.id < p.world.allocated + 1 := by
  intro node member
  cases List.mem_cons.mp member with
  | inl first => rw [first]; exact Nat.lt_succ_self _
  | inr later => exact Nat.lt_succ_of_lt (p.linked node later)

def listAdd (p : Parsing) (parm : TaskParm) : Parsing :=
  ⟨⟨p.world.s_global_config, p.world.allocated + 1, p.listAdd_global⟩,
    ⟨p.world.allocated, parm⟩ :: p.tmpList, p.listAdd_tmp parm⟩

end Parsing

def blankParm : TaskParm :=
  ⟨.zero 32 nameSize_pos, .zero 64 pathSize_pos, .zero 128 paramSize_pos, 0⟩

/-- The members of one entry. The three strings are compared with the arrays by `strncmp`, which
copies nothing. -/
def parseTask (item : Json) (taskNew : TaskParm) : Option TaskParm := do
  let _name ← stringItem item (text "name")
  let _path ← stringItem item (text "path")
  let _param ← stringItem item (text "param")
  let heartbeat ← numberItem item (text "heartbeat")
  return { taskNew with heartbeat := heartbeat }

/-- The loop over the entries from number `i` on. A node is linked before its entry is looked at.
The result says whether the loop came to its end. -/
def parseTasks (mallocOk : Nat → Bool) : Nat → List Json → Parsing → Parsing × Bool
  | _, [], p => (p, true)
  | i, item :: items, p =>
      if mallocOk i then
        match parseTask item blankParm with
        | none => (p.listAdd blankParm, false)
        | some taskNew => parseTasks mallocOk (i + 1) items (p.listAdd taskNew)
      else (p, false)

/-- The walk of `set_global_config` over its `taskList`: each node is unlinked and put first in the
other list. -/
def moveTasks : List TaskNode → List TaskNode → List TaskNode
  | [], list => list
  | pos :: next, list => moveTasks next (pos :: list)

theorem moveTasks_eq (taskList list : List TaskNode) :
    moveTasks taskList list = taskList.reverse ++ list := by
  induction taskList generalizing list with
  | nil => rfl
  | cons pos next ih =>
      rw [moveTasks, ih, List.reverse_cons, List.append_assoc]
      rfl

theorem moveTasks_linked (p : Parsing) :
    ∀ node ∈ moveTasks p.tmpList p.world.s_global_config.list, node.id < p.world.allocated := by
  intro node member
  rw [moveTasks_eq] at member
  cases List.mem_append.mp member with
  | inl moved => exact p.linked node (List.mem_reverse.mp moved)
  | inr old => exact p.world.linked node old

structure ConfigResult where
  ret : Int
  world : ConfigWorld
  freed : List Nat

/-- The nodes that are freed stay linked: the only caller has cleared the list before. -/
def setGlobalConfig (maxTasks : UInt32) (intvl : ℚ) (p : Parsing) : ConfigResult where
  ret := 0
  world :=
    ⟨⟨maxTasks, intvl, moveTasks p.tmpList p.world.s_global_config.list⟩, p.world.allocated,
      moveTasks_linked p⟩
  freed := p.world.s_global_config.list.map TaskNode.id

structure ParseEnv where
  parseOk : Bool
  mallocOk : Nat → Bool

def configItems (root : Json) : Option (ℚ × ℚ × Json) := do
  let maxTasks ← numberItem root (text "maxTasks")
  let queryIntvl ← numberItem root (text "queryInterval")
  let list ← getObjectItem root (text "tasks")
  return (maxTasks, queryIntvl, list)

/-- The part of `parse_config_file` behind these checks: a list without entries is not walked, and
a walk that breaks off frees what it has linked. -/
def parseList (mallocOk : Nat → Bool) (maxTasks : UInt32) (queryIntvl : ℚ) (list : Json)
    (w : ConfigWorld) : ConfigResult :=
  if list.children.length = 0 then setGlobalConfig maxTasks queryIntvl (.start w)
  else
    match parseTasks mallocOk 0 list.children (.start w) with
    | (p, true) => setGlobalConfig maxTasks queryIntvl p
    | (p, false) => ⟨-1, p.world, p.tmpList.map TaskNode.id⟩

/-- A text in memory has less than 2^32 bytes, since `uint32_t filesize` counts them, and so an
`int` counts the entries of its list. -/
def parseConfigFile (codec : Codec) (env : ParseEnv) (buf : Text) (w : ConfigWorld) :
    ConfigResult :=
  match (if env.parseOk then codec.parse buf else none).bind configItems with
  | none => ⟨-1, w, []⟩
  | some (maxTasks, queryIntvl, list) =>
      parseList env.mallocOk (UInt32.ofInt (truncate maxTasks)) queryIntvl list w

structure Fread where
  count : Nat
  eof : Bool

/-- The loop that fills the buffer: how many bytes it read, or its failure. There is no result
while the reads at hand do not end it. A count from 2^31 on is negative as an `int`. -/
def readLoop (filesize : Nat) : Nat → Bool → List Fread → Option (Option Nat)
  | readLen, eof, [] => if readLen = filesize ∨ eof = true then some (some readLen) else none
  | readLen, eof, read :: reads =>
      if readLen = filesize ∨ eof = true then some (some readLen)
      else
        let ret := min read.count (filesize - readLen)
        if 0 < ret ∧ ret < 2 ^ 31 then readLoop filesize (readLen + ret) read.eof reads
        else some none

/-- What the system says of the configuration file. -/
structure ConfigFile where
  opened : Bool
  contents : Text
  filesize : UInt32
  mallocOk : Bool
  reads : List Fread

/-- The buffer after so many bytes: the rest is zero, one byte behind the file's size included. -/
def ConfigFile.buffer (file : ConfigFile) (readLen : Nat) : Text :=
  file.contents.take readLen ++ List.replicate ((file.filesize + 1).toNat - readLen) 0

/-- `memset` of `s_global_config`, and its empty list. -/
def clearConfig (w : ConfigWorld) : ConfigWorld := ⟨⟨0, 0, []⟩, w.allocated, by simp⟩

def taskConfigInit (codec : Codec) (env : ParseEnv) (file : ConfigFile) (w : ConfigWorld) :
    Option ConfigResult :=
  let w := clearConfig w
  if file.opened && file.mallocOk then
    match readLoop file.filesize.toNat 0 false file.reads with
    | none => none
    | some none => some ⟨-1, w, []⟩
    | some (some readLen) => some (parseConfigFile codec env (file.buffer readLen) w)
  else some ⟨-1, w, []⟩

def foreachTaskCalls (w : ConfigWorld) : List TaskParm :=
  (foreachTask (fun calls pos => (calls ++ [pos], true))
    (w.s_global_config.list.map TaskNode.parm) []).1

end TaskMonitor
