import TaskMonitor.Library.CText

/-! `getopt` as POSIX specifies it: one option of an argument vector for each call, and -1 once
there are no more. -/

namespace Getopt

open CText

/-- What is left of the word that is being read, and the words behind it. -/
structure Scanner where
  nextchar : Text
  words : List Text
  deriving DecidableEq

structure Answer where
  ch : Int
  optarg : Text
  rest : Scanner
  deriving DecidableEq

def dash : UInt8 := 45
def colon : UInt8 := 58
def questionMark : Int := 63

def kind : Text → UInt8 → Option Bool
  | [], _ => none
  | option :: rest, c =>
      if option = c ∧ c ≠ colon then some (rest.head? = some colon) else kind rest c

def readOption (optstring : Text) (c : UInt8) (rest : Text) (words : List Text) : Answer :=
  match kind optstring c with
  | none => ⟨questionMark, [], ⟨rest, words⟩⟩
  | some false => ⟨c.toNat, [], ⟨rest, words⟩⟩
  | some true =>
      if rest ≠ [] then ⟨c.toNat, rest, ⟨[], words⟩⟩
      else
        match words with
        | [] => ⟨questionMark, [], ⟨[], []⟩⟩
        | arg :: words => ⟨c.toNat, arg, ⟨[], words⟩⟩

/-- A word is read from behind its dash on. At the end, and at a word that is no option, nothing
is passed over; the word `--` is. -/
def getopt (optstring : Text) (s : Scanner) : Answer :=
  match s.nextchar, s.words with
  | c :: rest, words => readOption optstring c rest words
  | [], [] => ⟨-1, [], s⟩
  | [], word :: words =>
      match word with
      | first :: c :: rest =>
          if first ≠ dash then ⟨-1, [], s⟩
          else if c = dash ∧ rest = [] then ⟨-1, [], ⟨[], words⟩⟩
          else readOption optstring c rest words
      | _ => ⟨-1, [], s⟩

section Answers

variable {optstring : Text} {c : UInt8}

theorem getopt_flag (flag : kind optstring c = some false) (letter : c ≠ dash)
    (words : List Text) :
    getopt optstring ⟨[], [dash, c] :: words⟩ = ⟨c.toNat, [], ⟨[], words⟩⟩ := by
  simp [getopt, letter, readOption, flag]

theorem getopt_valued (valued : kind optstring c = some true) (letter : c ≠ dash) (arg : Text)
    (words : List Text) :
    getopt optstring ⟨[], [dash, c] :: arg :: words⟩ = ⟨c.toNat, arg, ⟨[], words⟩⟩ := by
  simp [getopt, letter, readOption, valued]

theorem kind_nul (noNul : 0 ∉ optstring) : kind optstring 0 = none := by
  induction optstring with
  | nil => rfl
  | cons option rest ih =>
      have other : ¬ (option = 0 ∧ (0 : UInt8) ≠ colon) := by
        intro both
        exact noNul (both.1 ▸ List.mem_cons_self)
      rw [kind, if_neg other]
      exact ih fun member => noNul (List.mem_cons_of_mem option member)

theorem readOption_ne_zero (noNul : 0 ∉ optstring) (c : UInt8) (rest : Text)
    (words : List Text) : (readOption optstring c rest words).ch ≠ 0 := by
  have question : questionMark ≠ 0 := by decide
  by_cases nul : c = 0
  · rw [readOption.eq_def, nul, kind_nul noNul]
    exact question
  · have character : (c.toNat : Int) ≠ 0 := by
      intro zero
      exact nul (UInt8.toNat_inj.mp (Int.ofNat_eq_zero.mp zero))
    rw [readOption.eq_def]
    split
    · exact question
    · exact character
    · split
      · exact character
      · split
        · exact question
        · exact character

theorem getopt_ne_zero (noNul : 0 ∉ optstring) (s : Scanner) :
    (getopt optstring s).ch ≠ 0 := by
  have ended : (-1 : Int) ≠ 0 := by decide
  rw [getopt]
  split
  · exact readOption_ne_zero noNul _ _ _
  · exact ended
  · split
    · split
      · exact ended
      · split
        · exact ended
        · exact readOption_ne_zero noNul _ _ _
    · exact ended

end Answers

/-- Where each option replaces a value or leaves it, the last that replaces it counts. -/
theorem foldl_last {σ α β : Type*} (set : σ → α → σ) (get : σ → β) (give : α → Option β)
    (sets : ∀ s a, get (set s a) = (give a).getD (get s)) (options : List α) (s : σ) :
    get (options.foldl set s) = (options.filterMap give).getLast?.getD (get s) := by
  induction options generalizing s with
  | nil => rfl
  | cons option options ih =>
      rw [List.foldl_cons, ih, sets, List.filterMap_cons]
      cases given : give option with
      | none => rfl
      | some value =>
          dsimp only
          rw [List.getLast?_cons]
          rfl

end Getopt
