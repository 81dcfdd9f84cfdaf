import TaskMonitor.Library.StepMachine
import Mathlib.Data.List.Nodup
import Mathlib.Data.List.Count

/-! One-shot tokens: numbers that a machine issues in increasing order, keeps live for a while
and spends in its outputs. A token that a step spends was live before it and is not after. -/

structure OneShot {σ ε ω : Type*} (M : StepMachine σ ε ω) (live : σ → Set ℕ) (issued : σ → ℕ)
    (spends : ω → Option ℕ) : Prop where
  grows : ∀ s e, issued s ≤ issued (M.next s e)
  born : ∀ s e t, t ∈ live (M.next s e) → t ∈ live s ∨ issued s < t ∧ t ≤ issued (M.next s e)
  spent : ∀ s e, ∀ t ∈ (M.emit s e).filterMap spends, t ∈ live s ∧ t ∉ live (M.next s e)
  once : ∀ s e, ((M.emit s e).filterMap spends).Nodup

namespace OneShot

variable {σ ε ω : Type*} {M : StepMachine σ ε ω} {live : σ → Set ℕ} {issued : σ → ℕ}
  {spends : ω → Option ℕ}

def Issued (live : σ → Set ℕ) (issued : σ → ℕ) (s : σ) : Prop := ∀ t ∈ live s, t ≤ issued s

theorem issued_next (tokens : OneShot M live issued spends) {s : σ} (bounded : Issued live issued s)
    (e : ε) : Issued live issued (M.next s e) := by
  intro t member
  have grows := tokens.grows s e
  rcases tokens.born s e t member with old | ⟨_, fresh⟩
  · have bound := bounded t old
    omega
  · exact fresh

theorem issued_run (tokens : OneShot M live issued spends) {s : σ} (bounded : Issued live issued s)
    (es : List ε) : Issued live issued (M.run s es) :=
  M.run_invariant_all (Issued live issued) (fun _ e held => tokens.issued_next held e) es bounded

theorem stays_gone (tokens : OneShot M live issued spends) {s : σ} {t : ℕ} (old : t ≤ issued s)
    (gone : t ∉ live s) (es : List ε) : t ∉ live (M.run s es) := by
  have both := M.run_invariant_all (fun s => t ≤ issued s ∧ t ∉ live s) (s := s) ?_ es ⟨old, gone⟩
  · exact both.2
  · intro s e ⟨old, gone⟩
    have grows := tokens.grows s e
    refine ⟨by omega, ?_⟩
    intro back
    rcases tokens.born s e t back with live | ⟨fresh, _⟩
    · exact gone live
    · omega

theorem spent_origin (tokens : OneShot M live issued spends) {s : σ} {es : List ε} {t : ℕ}
    (member : t ∈ (M.trace s es).filterMap spends) : t ∈ live s ∨ issued s < t := by
  induction es generalizing s with
  | nil => simp at member
  | cons e es ih =>
      rw [StepMachine.trace_cons, List.filterMap_append, List.mem_append] at member
      rcases member with now | later
      · exact .inl (tokens.spent s e t now).1
      · have grows := tokens.grows s e
        rcases ih later with live | fresh
        · rcases tokens.born s e t live with old | ⟨fresh, _⟩
          · exact .inl old
          · exact .inr fresh
        · exact .inr (by omega)

theorem not_spent_of_gone (tokens : OneShot M live issued spends) {s : σ} {t : ℕ}
    (old : t ≤ issued s) (gone : t ∉ live s) (es : List ε) :
    t ∉ (M.trace s es).filterMap spends := by
  intro member
  rcases tokens.spent_origin member with live | fresh
  · exact gone live
  · omega

theorem spent_gone (tokens : OneShot M live issued spends) {s : σ} (bounded : Issued live issued s)
    {es : List ε} {t : ℕ} (member : t ∈ (M.trace s es).filterMap spends) :
    t ∉ live (M.run s es) := by
  induction es generalizing s with
  | nil => simp at member
  | cons e es ih =>
      rw [StepMachine.trace_cons, List.filterMap_append, List.mem_append] at member
      rcases member with now | later
      · rcases tokens.spent s e t now with ⟨before, after⟩
        have bound := bounded t before
        have grows := tokens.grows s e
        exact tokens.stays_gone (by omega) after es
      · exact ih (tokens.issued_next bounded e) later

theorem spent_nodup (tokens : OneShot M live issued spends) {s : σ} (bounded : Issued live issued s)
    (es : List ε) : ((M.trace s es).filterMap spends).Nodup := by
  induction es generalizing s with
  | nil => simp
  | cons e es ih =>
      rw [StepMachine.trace_cons, List.filterMap_append, List.nodup_append']
      refine ⟨tokens.once s e, ih (tokens.issued_next bounded e), ?_⟩
      intro t now later
      rcases tokens.spent s e t now with ⟨before, after⟩
      have bound := bounded t before
      have grows := tokens.grows s e
      exact tokens.not_spent_of_gone (by omega) after es later

/-- A token that goes at some step of a run is spent once over the run exactly when that step
spends it. -/
theorem count_eq_one_iff (tokens : OneShot M live issued spends) {s : σ}
    (bounded : Issued live issued s) (front : List ε) (e : ε) (back : List ε) {t : ℕ}
    (before : t ∈ live (M.run s front)) (after : t ∉ live (M.run s (front ++ [e]))) :
    ((M.trace s (front ++ e :: back)).filterMap spends).count t = 1 ↔
      t ∈ (M.emit (M.run s front) e).filterMap spends := by
  rw [M.run_append] at after
  have last : M.run (M.run s front) [e] = M.next (M.run s front) e := rfl
  rw [last] at after
  have bound := tokens.issued_run bounded front t before
  have grows := tokens.grows (M.run s front) e
  have unspent : t ∉ (M.trace s front).filterMap spends := fun member =>
    tokens.spent_gone bounded member before
  have behind := tokens.not_spent_of_gone (by omega) after back
  have split : t ∈ (M.trace s (front ++ e :: back)).filterMap spends ↔
      t ∈ (M.emit (M.run s front) e).filterMap spends := by
    rw [M.trace_append, StepMachine.trace_cons, List.filterMap_append, List.filterMap_append,
      List.mem_append, List.mem_append]
    exact ⟨fun member => (member.resolve_left unspent).resolve_right behind,
      fun now => .inr (.inl now)⟩
  rw [← split]
  constructor
  · intro one
    exact List.count_pos_iff.mp (by omega)
  · exact List.count_eq_one_of_mem (tokens.spent_nodup bounded _)

end OneShot
