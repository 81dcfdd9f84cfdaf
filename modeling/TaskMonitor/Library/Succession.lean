import TaskMonitor.Library.Sharing

/-! Machines that live one after another.

There is at most one at a time, under a number that no other one has had. It begins as a newborn
does, moves as it does alone, and ends in one last event. -/

namespace StepMachine

variable {α ε ω : Type*}

inductive Succession (M : StepMachine α ε ω) (newborn : α → Prop) (ends : ε → Prop) :
    Option (ℕ × α) → ℕ → List (ℕ × ω) → Prop where
  | start : Succession M newborn ends none 0 []
  | born {n : ℕ} {log : List (ℕ × ω)} {a : α} (before : Succession M newborn ends none n log)
      (fresh : newborn a) : Succession M newborn ends (some (n, a)) (n + 1) log
  | moves {i n : ℕ} {log : List (ℕ × ω)} {a : α} {e : ε}
      (before : Succession M newborn ends (some (i, a)) n log) (lives : ¬ ends e) :
      Succession M newborn ends (some (i, M.next a e)) n (log ++ (M.emit a e).map (Prod.mk i))
  | dies {i n : ℕ} {log : List (ℕ × ω)} {a : α} {e : ε}
      (before : Succession M newborn ends (some (i, a)) n log) (last : ends e) :
      Succession M newborn ends none n (log ++ (M.emit a e).map (Prod.mk i))

namespace Succession

variable {M : StepMachine α ε ω} {newborn : α → Prop} {ends : ε → Prop} {there : Option (ℕ × α)}
  {n : ℕ} {log : List (ℕ × ω)}

theorem newest (history : Succession M newborn ends there n log) {i : ℕ} {a : α}
    (same : there = some (i, a)) : i + 1 = n := by
  induction history generalizing a with
  | start => cases same
  | born before fresh ih =>
      obtain ⟨rfl, rfl⟩ := Prod.mk.inj (Option.some.inj same)
      rfl
  | moves before lives ih =>
      obtain ⟨rfl, rfl⟩ := Prod.mk.inj (Option.some.inj same)
      exact ih rfl
  | dies before last ih => cases same

theorem invariant (history : Succession M newborn ends there n log) (inv : α → Prop)
    (initial : ∀ a, newborn a → inv a)
    (preserves : ∀ a e, inv a → ¬ ends e → inv (M.next a e)) {i : ℕ} {a : α}
    (same : there = some (i, a)) : inv a := by
  induction history generalizing a with
  | start => cases same
  | born before fresh ih =>
      obtain ⟨rfl, rfl⟩ := Prod.mk.inj (Option.some.inj same)
      exact initial _ fresh
  | moves before lives ih =>
      obtain ⟨rfl, rfl⟩ := Prod.mk.inj (Option.some.inj same)
      exact preserves _ _ (ih rfl) lives
  | dies before last ih => cases same

theorem unborn (history : Succession M newborn ends there n log) {i : ℕ} (later : n ≤ i) :
    log.filterMap (Together.out? i) = [] := by
  induction history with
  | start => rfl
  | born before fresh ih => exact ih (by omega)
  | moves before lives ih =>
      have other := before.newest rfl
      rw [List.filterMap_append, ih later, Together.outs_other (by omega)]
      rfl
  | dies before last ih =>
      have other := before.newest rfl
      rw [List.filterMap_append, ih later, Together.outs_other (by omega)]
      rfl

/-- The run that one of them makes: it is still there and in the state that its run leads to, or
its run has ended, in its last event. -/
structure Life (M : StepMachine α ε ω) (newborn : α → Prop) (ends : ε → Prop)
    (there : Option (ℕ × α)) (log : List (ℕ × ω)) (i : ℕ) (a : α) (es : List ε) : Prop where
  fresh : newborn a
  outs : log.filterMap (Together.out? i) = M.trace a es
  state : (there = some (i, M.run a es) ∧ ∀ e ∈ es, ¬ ends e) ∨
    ((∀ b, there ≠ some (i, b)) ∧ ∃ front e, es = front ++ [e] ∧ ends e ∧ ∀ e' ∈ front, ¬ ends e')

namespace Life

variable {i j : ℕ} {a b : α} {es : List ε}

theorem further (life : Life M newborn ends (some (i, a)) log i b es) (e : ε) :
    a = M.run b es ∧ (∀ e ∈ es, ¬ ends e) ∧
      (log ++ (M.emit a e).map (Prod.mk i)).filterMap (Together.out? i) =
        M.trace b (es ++ [e]) := by
  cases life.state with
  | inr ended => exact absurd rfl (ended.1 a)
  | inl present =>
      obtain rfl := (Prod.mk.inj (Option.some.inj present.1)).2
      refine ⟨rfl, present.2, ?_⟩
      rw [List.filterMap_append, life.outs, Together.outs_self, M.trace_append, M.trace_one]

theorem elsewhere (life : Life M newborn ends (some (j, a)) log i b es) (other : j ≠ i) (e : ε)
    (gone : ∀ c, there ≠ some (i, c)) :
    Life M newborn ends there (log ++ (M.emit a e).map (Prod.mk j)) i b es := by
  refine ⟨life.fresh, ?_, .inr ⟨gone, ?_⟩⟩
  · rw [List.filterMap_append, life.outs, Together.outs_other other, List.append_nil]
  · cases life.state with
    | inl present => exact absurd (Prod.mk.inj (Option.some.inj present.1)).1 other
    | inr ended => exact ended.2

end Life

/-- Each that has been born lives a run of its own. -/
theorem life (history : Succession M newborn ends there n log) {i : ℕ} (old : i < n) :
    ∃ a es, Life M newborn ends there log i a es := by
  -- on the history: a life goes on in its own events only
  induction history with
  | start => exact absurd old (Nat.not_lt_zero i)
  | born before fresh ih =>
      rename_i m log a
      by_cases new : i = m
      · subst new
        exact ⟨a, [], fresh, before.unborn (Nat.le_refl i), .inl ⟨rfl, nofun⟩⟩
      · rcases ih (by omega) with ⟨b, es, life⟩
        refine ⟨b, es, life.fresh, life.outs, .inr ⟨?_, ?_⟩⟩
        · intro c same
          exact new (Prod.mk.inj (Option.some.inj same)).1.symm
        · cases life.state with
          | inl present => cases present.1
          | inr ended => exact ended.2
  | moves before lives ih =>
      rename_i j m log a e
      rcases ih old with ⟨b, es, life⟩
      by_cases own : j = i
      · subst own
        rcases life.further e with ⟨rfl, earlier, outs⟩
        refine ⟨b, es ++ [e], life.fresh, outs, .inl ⟨?_, ?_⟩⟩
        · rw [M.run_append]
          rfl
        · intro e' member
          cases List.mem_append.mp member with
          | inl before => exact earlier e' before
          | inr now => exact List.mem_singleton.mp now ▸ lives
      · refine ⟨b, es, life.elsewhere own e ?_⟩
        intro c same
        exact own (Prod.mk.inj (Option.some.inj same)).1
  | dies before last ih =>
      rename_i j m log a e
      rcases ih old with ⟨b, es, life⟩
      by_cases own : j = i
      · subst own
        rcases life.further e with ⟨rfl, earlier, outs⟩
        exact ⟨b, es ++ [e], life.fresh, outs, .inr ⟨nofun, es, e, rfl, last, earlier⟩⟩
      · exact ⟨b, es, life.elsewhere own e nofun⟩

end Succession

end StepMachine
