import Mathlib.Data.List.Basic

/-! The first position in a list at which a test succeeds. -/

namespace FirstIndex

variable {α : Type*}

theorem findIdx?_congr {p q : α → Bool} {xs : List α} (same : ∀ x ∈ xs, p x = q x) :
    xs.findIdx? p = xs.findIdx? q := by
  induction xs with
  | nil => rfl
  | cons x xs ih =>
      have head := same x List.mem_cons_self
      have tail := ih fun y member => same y (List.mem_cons_of_mem x member)
      rw [List.findIdx?_cons, List.findIdx?_cons, head, tail]

theorem findIdx?_eq_some_iff {p : α → Bool} {xs : List α} {i : ℕ} :
    xs.findIdx? p = some i ↔
      (∃ x, xs[i]? = some x ∧ p x = true) ∧ ∀ j < i, ∀ x, xs[j]? = some x → p x = false := by
  rw [List.findIdx?_eq_some_iff_getElem]
  constructor
  · rintro ⟨bound, holds, before⟩
    refine ⟨⟨xs[i], List.getElem?_eq_getElem bound, holds⟩, ?_⟩
    intro j lower x found
    rw [List.getElem?_eq_getElem (by omega)] at found
    obtain rfl := Option.some.inj found
    simpa using before j lower
  · rintro ⟨⟨x, found, holds⟩, before⟩
    rcases List.getElem?_eq_some_iff.mp found with ⟨bound, rfl⟩
    refine ⟨bound, holds, ?_⟩
    intro j lower
    simpa using before j lower xs[j] (List.getElem?_eq_getElem (by omega))

/-- Two tests that no element passes both find the same position only where both find none. -/
theorem findIdx?_eq_iff_of_disjoint {p q : α → Bool} {xs : List α}
    (disjoint : ∀ x ∈ xs, p x = true → q x = false) :
    xs.findIdx? p = xs.findIdx? q ↔ ∀ x ∈ xs, p x = false ∧ q x = false := by
  constructor
  · intro same
    cases found : xs.findIdx? p with
    | none =>
        rw [found] at same
        have first := List.findIdx?_eq_none_iff.mp found
        have second := List.findIdx?_eq_none_iff.mp same.symm
        intro x member
        exact ⟨first x member, second x member⟩
    | some i =>
        rw [found] at same
        rcases findIdx?_eq_some_iff.mp found with ⟨⟨x, here, first⟩, _⟩
        rcases findIdx?_eq_some_iff.mp same.symm with ⟨⟨y, there, second⟩, _⟩
        rw [here] at there
        obtain rfl := Option.some.inj there
        rw [disjoint x (List.mem_of_getElem? here) first] at second
        cases second
  · intro neither
    apply findIdx?_congr
    intro x member
    rw [(neither x member).1, (neither x member).2]

variable [DecidableEq α]

theorem findIdx?_eq_of_getElem? {xs : List α} {a : α} {i : ℕ} :
    xs.findIdx? (· = a) = some i ↔ xs[i]? = some a ∧ ∀ j < i, xs[j]? ≠ some a := by
  rw [findIdx?_eq_some_iff]
  constructor
  · rintro ⟨⟨x, found, here⟩, before⟩
    rw [of_decide_eq_true here] at found
    constructor
    · exact found
    · intro j lower there
      exact absurd (before j lower a there) (by simp)
  · rintro ⟨found, before⟩
    constructor
    · exact ⟨a, found, decide_eq_true rfl⟩
    · intro j lower x there
      apply decide_eq_false
      rintro rfl
      exact before j lower there

theorem findIdx?_set_ne {xs : List α} {a b : α} {i j : ℕ} (found : xs.findIdx? (· = a) = some j)
    (elsewhere : i ≠ j) (differs : b ≠ a) : (xs.set i b).findIdx? (· = a) = some j := by
  rw [findIdx?_eq_of_getElem?] at found ⊢
  refine ⟨(List.getElem?_set_ne elsewhere).trans found.1, ?_⟩
  intro k lower there
  by_cases same : i = k
  · subst same
    rw [List.getElem?_set] at there
    simp only [if_true] at there
    split at there
    · exact differs (Option.some.inj there)
    · cases there
  · rw [List.getElem?_set_ne same] at there
    exact found.2 k lower there

theorem findIdx?_set_self {xs : List α} {b : α} {i : ℕ} (bound : i < xs.length) :
    (xs.set i b).findIdx? (· = b) = some i ↔ ∀ k < i, xs[k]? ≠ some b := by
  have front (k : ℕ) (lower : k < i) : (xs.set i b)[k]? = xs[k]? :=
    List.getElem?_set_ne (by omega)
  rw [findIdx?_eq_of_getElem?]
  constructor
  · rintro ⟨_, before⟩ k lower
    rw [← front k lower]
    exact before k lower
  · intro before
    refine ⟨List.getElem?_set_self bound, ?_⟩
    intro k lower
    rw [front k lower]
    exact before k lower

end FirstIndex
