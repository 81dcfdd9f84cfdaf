import Mathlib.Data.List.TakeWhile

/-! NUL-terminated text in byte arrays. -/

namespace CText

abbrev Text := List UInt8

def text (literal : String) : Text := literal.toList.map fun c => UInt8.ofNat c.toNat

/-- What a string function reads at a pointer: the bytes before the first NUL. -/
def content (memory : Text) : Text := memory.takeWhile (· != 0)

/-- The NUL-terminated content of a `char[size]`. -/
structure CharArray (size : Nat) where
  text : Text
  fits : text.length < size
  noNul : 0 ∉ text
  deriving DecidableEq

structure CString where
  text : Text
  noNul : 0 ∉ text
  deriving DecidableEq

def CString.bytes (s : CString) : Text := s.text ++ [0]

def CString.strlen (s : CString) : Nat := s.text.length

theorem nul_not_mem_content (memory : Text) : 0 ∉ content memory := by
  intro member
  have kept := List.mem_takeWhile_imp member
  simp at kept

/-- `memset` to zero, then `strncpy` of at most `size - 1` bytes. -/
def strncpy (size : Nat) (positive : 0 < size) (source : Text) : CharArray size where
  text := (content source).take (size - 1)
  fits := by
    have bound := List.length_take_le (size - 1) (content source)
    omega
  noNul := fun member => nul_not_mem_content source (List.mem_of_mem_take member)

def CharArray.zero (size : Nat) (positive : 0 < size) : CharArray size := ⟨[], positive, by simp⟩

theorem content_of_noNul {t : Text} (noNul : 0 ∉ t) : content t = t := by
  apply List.takeWhile_eq_self_iff.mpr
  intro c member
  have nonzero : c ≠ 0 := fun zero => noNul (zero ▸ member)
  simpa using nonzero

theorem strncpy_text {size : Nat} (positive : 0 < size) (a : CharArray size) :
    strncpy size positive a.text = a := by
  have fits := a.fits
  have whole : (content a.text).take (size - 1) = a.text := by
    rw [content_of_noNul a.noNul]
    exact List.take_of_length_le (by omega)
  cases a
  simp only [strncpy, CharArray.mk.injEq]
  exact whole

section Scan

/-- The addresses that a string function reads from `start` on, in its first so many reads: it
stops behind the first NUL. -/
def scan (memory : Nat → UInt8) (start : Nat) : Nat → List Nat
  | 0 => []
  | reads + 1 => start :: if memory start = 0 then [] else scan memory (start + 1) reads

theorem mem_scan_iff (memory : Nat → UInt8) (start reads address : Nat) :
    address ∈ scan memory start reads ↔
      start ≤ address ∧ address < start + reads ∧
        ∀ i, start ≤ i → i < address → memory i ≠ 0 := by
  induction reads generalizing start with
  | zero =>
      simp only [scan, List.not_mem_nil, false_iff]
      omega
  | succ reads ih =>
      rw [scan, List.mem_cons]
      constructor
      · intro member
        cases member with
        | inl here =>
            rw [here]
            exact ⟨Nat.le_refl _, by omega, fun i from_start before => by omega⟩
        | inr later =>
            by_cases nul : memory start = 0
            · rw [if_pos nul] at later
              cases later
            · rw [if_neg nul, ih] at later
              rcases later with ⟨above, below, nonzero⟩
              refine ⟨by omega, by omega, ?_⟩
              intro i from_start before
              by_cases first : i = start
              · rw [first]
                exact nul
              · exact nonzero i (by omega) before
      · intro reached
        rcases reached with ⟨above, below, nonzero⟩
        by_cases first : address = start
        · exact Or.inl first
        · right
          rw [if_neg (nonzero start (Nat.le_refl _) (by omega)), ih]
          exact ⟨by omega, by omega, fun i from_start before => nonzero i (by omega) before⟩

/-- However many reads the function makes, it stays below the limit if and only if it finds a NUL
there. -/
theorem scan_below_iff (memory : Nat → UInt8) (start limit : Nat) :
    (∀ reads, ∀ address ∈ scan memory start reads, address < limit) ↔
      ∃ i, start ≤ i ∧ i < limit ∧ memory i = 0 := by
  constructor
  · intro below
    by_contra no_nul
    have nonzero : ∀ i, start ≤ i → i < max start limit → memory i ≠ 0 := by
      intro i above inside nul
      exact no_nul ⟨i, above, by omega, nul⟩
    have reached : max start limit ∈ scan memory start (max start limit + 1) :=
      (mem_scan_iff _ _ _ _).mpr ⟨by omega, by omega, nonzero⟩
    have bound := below _ _ reached
    omega
  · intro found reads address member
    rcases found with ⟨i, above, inside, nul⟩
    by_contra beyond
    have nonzero := ((mem_scan_iff _ _ _ _).mp member).2.2
    exact nonzero i above (by omega) nul

def laidOut (block : Text) (after : Nat → UInt8) (address : Nat) : UInt8 :=
  (block[address]?).getD (after (address - block.length))

theorem laidOut_nul_iff (block : Text) (after : Nat → UInt8) (start : Nat) :
    (∃ i, start ≤ i ∧ i < block.length ∧ laidOut block after i = 0) ↔ 0 ∈ block.drop start := by
  rw [List.mem_iff_getElem?]
  constructor
  · intro found
    rcases found with ⟨i, above, inside, nul⟩
    refine ⟨i - start, ?_⟩
    rw [laidOut, List.getElem?_eq_getElem inside, Option.getD_some] at nul
    rw [List.getElem?_drop, Nat.add_sub_cancel' above, List.getElem?_eq_getElem inside, nul]
  · intro found
    rcases found with ⟨k, here⟩
    rw [List.getElem?_drop] at here
    rcases List.getElem?_eq_some_iff.mp here with ⟨inside, _⟩
    refine ⟨start + k, Nat.le_add_right _ _, inside, ?_⟩
    rw [laidOut, here, Option.getD_some]

end Scan

end CText
