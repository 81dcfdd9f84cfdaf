import TaskMonitor.Library.CjsonText
import Mathlib.Data.Nat.Log
import Mathlib.Data.Nat.Cast.Order.Ring

/-! How long a tree whose numbers are whole is when it is printed without blanks. -/

namespace Cjson

open CText

def escapedSize (c : UInt8) : Nat :=
  if c = 34 ∨ c = 92 ∨ c = 8 ∨ c = 9 ∨ c = 10 ∨ c = 12 ∨ c = 13 then 2
  else if c < 32 then 6
  else 1

def textSize (s : Text) : Nat := (s.map escapedSize).sum

def digitCount (n : Nat) : Nat := Nat.log 10 n + 1

def numberSize (d : ℚ) : Nat :=
  if d < 0 then 1 + digitCount (-d).num.toNat else digitCount d.num.toNat

mutual

def compactSize : Json → Nat
  | .null => 4
  | .bool b => if b then 4 else 5
  | .number d => numberSize d
  | .string s => 2 + textSize s
  | .array items => 2 + itemsSize items
  | .object members => 2 + membersSize members
  | .raw s => s.length

def itemsSize : List Json → Nat
  | [] => 0
  | item :: items => compactSize item + (if items.isEmpty then 0 else 1 + itemsSize items)

def membersSize : List (Text × Json) → Nat
  | [] => 0
  | (key, item) :: members =>
      2 + textSize key + 1 + compactSize item +
        (if members.isEmpty then 0 else 1 + membersSize members)

end

/-- The tree is printed without blanks. -/
def Codec.Compact (codec : Codec) (tree : Json) : Prop :=
  (codec.print tree).strlen = compactSize tree

theorem numberSize_natCast (n : Nat) : numberSize (n : ℚ) = digitCount n := by
  have natural : ¬ (n : ℚ) < 0 := not_lt.mpr (Nat.cast_nonneg n)
  rw [numberSize, if_neg natural, Rat.num_natCast]
  rfl

theorem itemsSize_eq (items : List Json) :
    itemsSize items = (items.map compactSize).sum + (items.length - 1) := by
  induction items with
  | nil => rfl
  | cons item items ih =>
      rw [itemsSize, ih]
      cases items with
      | nil => simp
      | cons next items =>
          simp only [List.isEmpty_cons, Bool.false_eq_true, if_false, List.map_cons, List.sum_cons,
            List.length_cons]
          omega

structure Sized (t : Text) (n : Nat) : Prop where
  length : t.length = n
  noNul : 0 ∉ t

theorem Sized.append {s t : Text} {m n : Nat} (first : Sized s m) (second : Sized t n) :
    Sized (s ++ t) (m + n) := by
  constructor
  · rw [List.length_append, first.length, second.length]
  · intro member
    rcases List.mem_append.mp member with left | right
    · exact first.noNul left
    · exact second.noNul right

theorem Sized.cons {c : UInt8} {t : Text} {n : Nat} (nonzero : c ≠ 0) (rest : Sized t n) :
    Sized (c :: t) (1 + n) := by
  constructor
  · rw [List.length_cons, rest.length, Nat.add_comm]
  · intro member
    rcases List.mem_cons.mp member with head | tail
    · exact nonzero head.symm
    · exact rest.noNul tail

theorem Sized.between {first last : UInt8} {t : Text} {n : Nat} (opening : first ≠ 0)
    (inner : Sized t n) (closing : last ≠ 0) : Sized (first :: t ++ [last]) (2 + n) := by
  have empty : Sized [] 0 := ⟨rfl, List.not_mem_nil⟩
  have size : 2 + n = 1 + n + (1 + 0) := by omega
  rw [size]
  exact (inner.cons opening).append (empty.cons closing)

theorem decimal_sized {fuel n : Nat} (enough : n < 10 ^ fuel) {digits : Text} {m : Nat}
    (behind : Sized digits m) (positive : 0 < fuel) :
    Sized (decimal fuel n digits) (digitCount n + m) := by
  induction fuel generalizing n digits m with
  | zero => omega
  | succ fuel ih =>
      have digit : UInt8.ofNat (48 + n % 10) ≠ 0 := by
        intro zero
        have value := congrArg UInt8.toNat zero
        rw [UInt8.toNat_ofNat'] at value
        simp at value
        omega
      have front := behind.cons digit
      rw [decimal]
      by_cases last : n < 10
      · rw [if_pos last, digitCount, Nat.log_of_lt last]
        exact front
      · have counted : digitCount n = digitCount (n / 10) + 1 := by
          rw [digitCount, Nat.log_of_one_lt_of_le (by decide) (Nat.not_lt.mp last), digitCount]
        have shorter : n / 10 < 10 ^ fuel := by
          rw [Nat.pow_succ] at enough
          omega
        have more : 0 < fuel := by
          by_contra zero
          have first : fuel = 0 := by omega
          subst first
          omega
        rw [if_neg last, counted, Nat.add_assoc]
        exact ih shorter front more

theorem printNumber_sized {d : ℚ} (small : d.num.natAbs < 10 ^ 20) :
    Sized (printNumber d) (numberSize d) := by
  have empty : Sized [] 0 := ⟨rfl, List.not_mem_nil⟩
  rw [printNumber, numberSize]
  split
  · have enough : (-d).num.toNat < 10 ^ 20 := by
      rw [Rat.num_neg_eq_neg_num]
      omega
    exact (decimal_sized enough empty (by decide)).cons (by decide)
  · exact decimal_sized (by omega) empty (by decide)

def PlainText (s : Text) : Prop := ∀ c ∈ s, 32 ≤ c

instance (s : Text) : Decidable (PlainText s) := List.decidableBAll (32 ≤ ·) s

theorem escaped_sized {c : UInt8} (visible : 32 ≤ c) :
    Sized (if c = 34 ∨ c = 92 then [92, c] else [c]) (escapedSize c) := by
  have nonzero : c ≠ 0 := by
    rintro rfl
    exact absurd visible (by decide)
  rw [escapedSize]
  by_cases escaped : c = 34 ∨ c = 92
  · have letter : c = 34 ∨ c = 92 ∨ c = 8 ∨ c = 9 ∨ c = 10 ∨ c = 12 ∨ c = 13 := by
      rcases escaped with quote | backslash
      · exact .inl quote
      · exact .inr (.inl backslash)
    rw [if_pos escaped, if_pos letter]
    exact ⟨rfl, by simp [nonzero.symm]⟩
  · have unescaped : ¬ (c = 34 ∨ c = 92 ∨ c = 8 ∨ c = 9 ∨ c = 10 ∨ c = 12 ∨ c = 13) := by
      rintro (rfl | rfl | rfl | rfl | rfl | rfl | rfl)
      · exact escaped (.inl rfl)
      · exact escaped (.inr rfl)
      all_goals exact absurd visible (by decide)
    rw [if_neg escaped, if_neg unescaped, if_neg (UInt8.not_lt.mpr visible)]
    exact ⟨rfl, by simp [nonzero.symm]⟩

theorem printString_sized {s : Text} (plain : PlainText s) :
    Sized (printString s) (2 + textSize s) := by
  have inner : Sized (s.flatMap fun c => if c = 34 ∨ c = 92 then [92, c] else [c])
      (textSize s) := by
    induction s with
    | nil => exact ⟨rfl, List.not_mem_nil⟩
    | cons c s ih =>
        have head := escaped_sized (plain c List.mem_cons_self)
        have later := ih fun c member => plain c (List.mem_cons_of_mem _ member)
        rw [List.flatMap_cons]
        exact head.append later
  exact inner.between (by decide) (by decide)

mutual

def Plain : Json → Prop
  | .null | .bool _ => True
  | .number d => d.num.natAbs < 10 ^ 20
  | .string s => PlainText s
  | .array items => PlainItems items
  | .object members => PlainMembers members
  | .raw s => 0 ∉ s

def PlainItems : List Json → Prop
  | [] => True
  | item :: items => Plain item ∧ PlainItems items

def PlainMembers : List (Text × Json) → Prop
  | [] => True
  | (key, item) :: members => PlainText key ∧ Plain item ∧ PlainMembers members

end

theorem plainItems_iff (items : List Json) : PlainItems items ↔ ∀ item ∈ items, Plain item := by
  induction items with
  | nil => simp [PlainItems]
  | cons item items ih => simp [PlainItems, ih]

theorem Sized.separated {α : Type*} {items : List α} {t : Text} {n : Nat} (later : Sized t n) :
    Sized (if items.isEmpty then [] else 44 :: t) (if items.isEmpty then 0 else 1 + n) := by
  cases items with
  | nil => exact ⟨rfl, List.not_mem_nil⟩
  | cons item items => exact later.cons (by decide)

mutual

theorem printItem_sized (tree : Json) (plain : Plain tree) :
    Sized (printItem tree) (compactSize tree) := by
  cases tree with
  | null => exact ⟨rfl, by decide⟩
  | bool b => cases b <;> exact ⟨rfl, by decide⟩
  | number d =>
      rw [Plain] at plain
      exact printNumber_sized plain
  | string s =>
      rw [Plain] at plain
      exact printString_sized plain
  | array items =>
      rw [Plain] at plain
      rw [printItem, compactSize]
      exact (printItems_sized items plain).between (by decide) (by decide)
  | object members =>
      rw [Plain] at plain
      rw [printItem, compactSize]
      exact (printMembers_sized members plain).between (by decide) (by decide)
  | raw s =>
      rw [Plain] at plain
      exact ⟨rfl, plain⟩

theorem printItems_sized (items : List Json) (plain : PlainItems items) :
    Sized (printItems items) (itemsSize items) := by
  cases items with
  | nil => exact ⟨rfl, List.not_mem_nil⟩
  | cons item items =>
      rw [PlainItems] at plain
      have head := printItem_sized item plain.1
      have later := printItems_sized items plain.2
      rw [printItems, itemsSize]
      exact head.append later.separated

theorem printMembers_sized (members : List (Text × Json)) (plain : PlainMembers members) :
    Sized (printMembers members) (membersSize members) := by
  cases members with
  | nil => exact ⟨rfl, List.not_mem_nil⟩
  | cons member members =>
      rcases member with ⟨key, item⟩
      rw [PlainMembers] at plain
      have front := printString_sized plain.1
      have value := (printItem_sized item plain.2.1).cons (c := 58) (by decide)
      have later := printMembers_sized members plain.2.2
      rw [printMembers, membersSize, Nat.add_assoc _ 1]
      exact (front.append value).append later.separated

end

theorem textCodec_compact {tree : Json} (plain : Plain tree) : textCodec.Compact tree := by
  have printed := printItem_sized tree plain
  have bytes : (textCodec.print tree).text = printItem tree := content_of_noNul printed.noNul
  rw [Codec.Compact, CString.strlen, bytes, printed.length]

end Cjson
