import TaskMonitor.Library.StepMachine

/-! Slots that hold one thing at a time.

A thing is acquired by some actions and released by others. A slot that releases what it holds
before it acquires anything else leaves a history of whole cycles, and at most one begun. -/

namespace StepMachine

variable {σ ε ω α β : Type*}

def acts (act : α → List β) (held : Option α) : List β := held.elim [] act

structure Leases (M : StepMachine σ ε ω) (held : σ → Option α) (acquire release : α → List β)
    (view : ω → Option β) (guard : σ → ε → Prop) : Prop where
  step : ∀ s e, guard s e →
    (held (M.next s e) = held s ∧ (M.emit s e).filterMap view = []) ∨
      (M.emit s e).filterMap view =
        acts release (held s) ++ acts acquire (held (M.next s e))

/-- The history of a slot that holds nothing at first: each thing it has held was acquired and then
released, one after the other, but for the one that it holds. -/
theorem Leases.run {M : StepMachine σ ε ω} {held : σ → Option α} {acquire release : α → List β}
    {view : ω → Option β} {guard : σ → ε → Prop}
    (leases : Leases M held acquire release view guard) {s : σ} {es : List ε}
    (guarded : M.AllSteps guard s es) :
    ∃ done : List α, acts acquire (held s) ++ (M.trace s es).filterMap view =
      done.flatMap (fun a => acquire a ++ release a) ++ acts acquire (held (M.run s es)) := by
  induction es generalizing s with
  | nil => exact ⟨[], by simp⟩
  | cons e es ih =>
      rcases ih guarded.2 with ⟨done, later⟩
      rw [trace_cons, List.filterMap_append, run_cons]
      rcases leases.step s e guarded.1 with ⟨same, silent⟩ | handed
      · refine ⟨done, ?_⟩
        rw [silent, List.nil_append, ← same]
        exact later
      · refine ⟨(held s).toList ++ done, ?_⟩
        calc
          acts acquire (held s) ++ ((M.emit s e).filterMap view ++
                (M.trace (M.next s e) es).filterMap view) =
              acts acquire (held s) ++ acts release (held s) ++ (acts acquire (held (M.next s e)) ++
                (M.trace (M.next s e) es).filterMap view) := by
            rw [handed]
            simp
          _ = acts acquire (held s) ++ acts release (held s) ++
                (done.flatMap (fun a => acquire a ++ release a) ++
                  acts acquire (held (M.run (M.next s e) es))) := by
            rw [later]
          _ = ((held s).toList ++ done).flatMap (fun a => acquire a ++ release a) ++
                acts acquire (held (M.run (M.next s e) es)) := by
            cases held s <;> simp [acts]

end StepMachine
