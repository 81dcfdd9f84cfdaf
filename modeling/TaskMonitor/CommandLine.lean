import TaskMonitor.Comm
import TaskMonitor.Library.CjsonLength
import TaskMonitor.Library.Getopt
import Mathlib.Algebra.Order.Ring.Cast

/-! The command line of `task_cli.cpp`: the option loop of `main`, and what it hands on. -/

namespace TaskMonitor

open CText Cjson Getopt

def isSpace (c : UInt8) : Bool := c = 32 ∨ 9 ≤ c ∧ c ≤ 13

def isDigit (c : UInt8) : Bool := 48 ≤ c ∧ c ≤ 57

def digits : Nat → Text → Nat
  | value, [] => value
  | value, c :: rest => if isDigit c then digits (10 * value + (c.toNat - 48)) rest else value

/-- `strtol` to the base 10: a number that a `long` cannot hold gives its nearest. -/
def strtol (t : Text) : Int :=
  let t := t.dropWhile isSpace
  let value : Int :=
    match t with
    | [] => 0
    | sign :: rest =>
        if sign = 45 then -(digits 0 rest)
        else if sign = 43 then digits 0 rest
        else digits 0 t
  max (-2 ^ 63) (min (2 ^ 63 - 1) value)

def atoi (t : Text) : Int := (Int32.ofInt (strtol t)).toInt

example : [atoi (text " -42x"), atoi (text "4294967297"), atoi (text "pid")] = [-42, 1, 0] := by
  decide

structure CliVars where
  list : Int
  pid : Int
  name : CharArray 32
  action : Int
  deriving DecidableEq

/-- `struct msg_data`. -/
structure MsgData where
  is_list : Int
  pid : Int
  name : CharArray 32
  action : Int
  deriving DecidableEq

def optstring : Text := text "lp:n:a:"

theorem optstring_noNul : 0 ∉ optstring := by decide

def CliVars.init : CliVars := ⟨0, 0, .zero 32 nameSize_pos, 0⟩

/-- The `switch` on what `getopt` returned. There is no result where `usage` exits. -/
def readChoice (vars : CliVars) (ch : Int) (optarg : Text) : Option CliVars :=
  if ch = ('l'.toNat : Int) then some { vars with list := 1 }
  else if ch = ('p'.toNat : Int) then
    let pid := atoi optarg
    if pid = 0 then none else some { vars with pid := pid }
  else if ch = ('n'.toNat : Int) then some { vars with name := strncpy 32 nameSize_pos optarg }
  else if ch = ('a'.toNat : Int) then
    if optarg = text "start" then some { vars with action := taskActionStart }
    else if optarg = text "stop" then some { vars with action := taskActionStop }
    else if optarg = text "restart" then some { vars with action := taskActionRestart }
    else none
  else some vars

/-- The option loop after some turns: still running, left for the rest of `main`, or ended by
`exit`. -/
inductive OptionLoop where
  | running (s : Scanner) (vars : CliVars)
  | left (vars : CliVars)
  | exited (code : Int)

/-- `while((ch = getopt(argc, argv, "lp:n:a:")))`, for so many turns. -/
def optionLoop : Nat → Scanner → CliVars → OptionLoop
  | 0, s, vars => .running s vars
  | turns + 1, s, vars =>
      let answer := getopt optstring s
      if answer.ch = 0 then .left vars
      else
        match readChoice vars answer.ch answer.optarg with
        | none => .exited 1
        | some vars => optionLoop turns answer.rest vars

def msgData (vars : CliVars) : MsgData :=
  ⟨vars.list, vars.pid, strncpy 32 nameSize_pos vars.name.text, vars.action⟩

def mainLoop (turns : Nat) (argv : List Text) : OptionLoop :=
  optionLoop turns ⟨[], argv.drop 1⟩ .init

inductive CliAction where
  | start | stop | restart
  deriving DecidableEq

def CliAction.word : CliAction → Text
  | .start => text "start"
  | .stop => text "stop"
  | .restart => text "restart"

def CliAction.code : CliAction → Int
  | .start => taskActionStart
  | .stop => taskActionStop
  | .restart => taskActionRestart

inductive CliOption where
  | l
  | p (value : CString) (nonzero : atoi value.text ≠ 0)
  | n (name : CString)
  | a (action : CliAction)

namespace CliOption

def words : CliOption → List Text
  | .l => [text "-l"]
  | .p value _ => [text "-p", value.text]
  | .n name => [text "-n", name.text]
  | .a action => [text "-a", action.word]

def argv (program : Text) (options : List CliOption) : List Text :=
  program :: options.flatMap words

def apply (vars : CliVars) : CliOption → CliVars
  | .l => { vars with list := 1 }
  | .p value _ => { vars with pid := atoi value.text }
  | .n name => { vars with name := strncpy 32 nameSize_pos name.text }
  | .a action => { vars with action := action.code }

theorem optionLoop_turn {s rest : Scanner} {vars vars' : CliVars} {ch : Int} {optarg : Text}
    (answer : getopt optstring s = ⟨ch, optarg, rest⟩) (nonzero : ch ≠ 0)
    (chosen : readChoice vars ch optarg = some vars') (turns : Nat) :
    optionLoop (turns + 1) s vars = optionLoop turns rest vars' := by
  rw [optionLoop, answer]
  dsimp only
  rw [if_neg nonzero, chosen]

theorem optionLoop_cons (o : CliOption) (words : List Text) (turns : Nat) (vars : CliVars) :
    optionLoop (turns + 1) ⟨[], o.words ++ words⟩ vars =
      optionLoop turns ⟨[], words⟩ (o.apply vars) := by
  cases o with
  | l =>
      have answer : getopt optstring ⟨[], text "-l" :: words⟩ = ⟨108, [], ⟨[], words⟩⟩ :=
        getopt_flag (by decide) (by decide) words
      exact optionLoop_turn answer (by decide) rfl turns
  | p value nonzero =>
      have answer : getopt optstring ⟨[], text "-p" :: value.text :: words⟩ =
          ⟨112, value.text, ⟨[], words⟩⟩ := getopt_valued (by decide) (by decide) value.text words
      have chosen : readChoice vars 112 value.text =
          some { vars with pid := atoi value.text } := if_neg nonzero
      exact optionLoop_turn answer (by decide) chosen turns
  | n name =>
      have answer : getopt optstring ⟨[], text "-n" :: name.text :: words⟩ =
          ⟨110, name.text, ⟨[], words⟩⟩ := getopt_valued (by decide) (by decide) name.text words
      exact optionLoop_turn answer (by decide) rfl turns
  | a action =>
      have answer : getopt optstring ⟨[], text "-a" :: action.word :: words⟩ =
          ⟨97, action.word, ⟨[], words⟩⟩ := getopt_valued (by decide) (by decide) action.word words
      have chosen : readChoice vars 97 action.word = some { vars with action := action.code } := by
        cases action <;> rfl
      exact optionLoop_turn answer (by decide) chosen turns

theorem optionLoop_options (options : List CliOption) (turns : Nat) (vars : CliVars) :
    optionLoop (options.length + turns) ⟨[], options.flatMap words⟩ vars =
      optionLoop turns ⟨[], []⟩ (options.foldl apply vars) := by
  induction options generalizing vars with
  | nil => rw [List.length_nil, Nat.zero_add]; rfl
  | cons o options ih =>
      have one_more : (o :: options).length + turns = options.length + turns + 1 := by
        rw [List.length_cons]
        omega
      rw [one_more, List.flatMap_cons, optionLoop_cons, ih]
      rfl

theorem optionLoop_end (turns : Nat) (vars : CliVars) :
    optionLoop turns ⟨[], []⟩ vars = .running ⟨[], []⟩ vars := by
  induction turns with
  | zero => rfl
  | succ turns ih =>
      have answer : getopt optstring ⟨[], []⟩ = ⟨-1, [], ⟨[], []⟩⟩ := rfl
      rw [optionLoop_turn answer (by decide) rfl turns]
      exact ih

end CliOption

/-- No argument vector at all makes the loop come to its end. -/
theorem optionLoop_not_left (turns : Nat) (s : Scanner) (vars end_vars : CliVars) :
    optionLoop turns s vars ≠ .left end_vars := by
  induction turns generalizing s vars with
  | zero =>
      intro ended
      cases ended
  | succ turns ih =>
      rw [optionLoop]
      rw [if_neg (getopt_ne_zero optstring_noNul s)]
      split
      · intro ended
        cases ended
      · exact ih _ _

namespace CliOption

def pid : CliOption → Option Int
  | .p value _ => some (atoi value.text)
  | _ => none

def name : CliOption → Option Text
  | .n name => some name.text
  | _ => none

def action : CliOption → Option CliAction
  | .a action => some action
  | _ => none

def isList : CliOption → Bool
  | .l => true
  | _ => false

structure Holds (data : MsgData) (options : List CliOption) : Prop where
  is_list : data.is_list = if options.any isList then 1 else 0
  pid : data.pid = (options.filterMap pid).getLast?.getD 0
  name : data.name.text = ((options.filterMap name).getLast?.getD []).take 31
  action : data.action = ((options.filterMap action).getLast?.map CliAction.code).getD 0

theorem foldl_list (options : List CliOption) (vars : CliVars) :
    (options.foldl apply vars).list = if options.any isList then 1 else vars.list := by
  induction options generalizing vars with
  | nil => rfl
  | cons o options ih =>
      rw [List.foldl_cons, ih, List.any_cons]
      cases o <;> simp [apply, isList]

theorem foldl_pid (options : List CliOption) (vars : CliVars) :
    (options.foldl apply vars).pid = (options.filterMap pid).getLast?.getD vars.pid := by
  apply foldl_last apply CliVars.pid pid
  intro vars o
  cases o <;> rfl

theorem foldl_name (options : List CliOption) (vars : CliVars) :
    (options.foldl apply vars).name.text =
      ((options.filterMap name).getLast?.map (List.take 31)).getD vars.name.text := by
  rw [← List.getLast?_map, List.map_filterMap]
  apply foldl_last apply (fun vars => vars.name.text)
  intro vars o
  cases o with
  | l => rfl
  | p value nonzero => rfl
  | a action => rfl
  | n name => exact congrArg (List.take 31) (content_of_noNul name.noNul)

theorem foldl_action (options : List CliOption) (vars : CliVars) :
    (options.foldl apply vars).action =
      ((options.filterMap action).getLast?.map CliAction.code).getD vars.action := by
  rw [← List.getLast?_map, List.map_filterMap]
  apply foldl_last apply CliVars.action
  intro vars o
  cases o <;> rfl

theorem holds_foldl (options : List CliOption) :
    Holds (msgData (options.foldl apply .init)) options := by
  constructor
  · exact foldl_list options .init
  · exact foldl_pid options .init
  · rw [msgData, strncpy_text, foldl_name]
    cases (options.filterMap name).getLast? <;> rfl
  · exact foldl_action options .init

/-- After a turn for each option the variables are as they should be, and the loop goes on. -/
theorem mainLoop_holds (program : Text) (options : List CliOption) (turns : Nat) :
    ∃ vars, mainLoop (options.length + turns) (argv program options) = .running ⟨[], []⟩ vars ∧
      Holds (msgData vars) options := by
  refine ⟨options.foldl apply .init, ?_, holds_foldl options⟩
  calc
    mainLoop (options.length + turns) (argv program options)
      = optionLoop (options.length + turns) ⟨[], options.flatMap words⟩ .init := rfl
    _ = optionLoop turns ⟨[], []⟩ (options.foldl apply .init) := optionLoop_options _ _ _
    _ = .running ⟨[], []⟩ (options.foldl apply .init) := optionLoop_end _ _

end CliOption

open CliOption

def Parses (program : Text) (options : List CliOption) : Prop :=
  ∃ turns vars, mainLoop turns (argv program options) = .left vars ∧ Holds (msgData vars) options

/-- `getopt` ends with -1, and the loop waits for 0. -/
theorem never_parses (program : Text) (options : List CliOption) : ¬ Parses program options := by
  intro parses
  rcases parses with ⟨turns, vars, ended, _⟩
  exact optionLoop_not_left turns _ _ vars ended

/-- `task_cli -l`. -/
theorem list_never_parses : ¬ Parses (text "task_cli") [.l] := by
  intro parses
  rcases parses with ⟨turns, vars, ended, _⟩
  exact optionLoop_not_left turns _ .init vars ended

end TaskMonitor
