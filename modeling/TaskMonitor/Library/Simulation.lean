import TaskMonitor.Library.StepMachine
import Mathlib.Data.List.Pairwise

/-! Forward simulations of one machine by another, and the channels that a machine keeps. -/

namespace StepMachine

variable {σ ε ω σ' ε' ω' : Type*}

theorem trace_one (M : StepMachine σ ε ω) (s : σ) (e : ε) : M.trace s [e] = M.emit s e :=
  List.append_nil _

theorem mem_trace {M : StepMachine σ ε ω} {s : σ} {es : List ε} {o : ω} :
    o ∈ M.trace s es ↔ ∃ front e back, es = front ++ e :: back ∧ o ∈ M.emit (M.run s front) e := by
  induction es generalizing s with
  | nil => simp
  | cons head tail ih =>
      rw [trace_cons, List.mem_append, ih]
      constructor
      · intro either
        cases either with
        | inl now => exact ⟨[], head, tail, rfl, now⟩
        | inr later =>
            rcases later with ⟨front, e, back, rfl, emitted⟩
            exact ⟨head :: front, e, back, rfl, emitted⟩
      · intro split
        rcases split with ⟨front, e, back, same, emitted⟩
        cases front with
        | nil =>
            rcases List.cons.inj same with ⟨rfl, rfl⟩
            exact .inl emitted
        | cons f front =>
            rcases List.cons.inj same with ⟨rfl, rfl⟩
            exact .inr ⟨front, e, back, rfl, emitted⟩

theorem eq_of_seen {β : Type*} {view : ω → Option β} {outs : List ω}
    (once : (outs.filterMap view).Nodup) {o o' : ω} {b : β} (first : o ∈ outs) (second : o' ∈ outs)
    (seen : view o = some b) (seen' : view o' = some b) : o = o' := by
  by_contra differs
  have apart := List.pairwise_filterMap.mp once
  have symmetric :
      Std.Symm fun a a' => ∀ b, view a = some b → ∀ b', view a' = some b' → b ≠ b' :=
    ⟨fun _ _ unequal b one b' other => (unequal b' other b one).symm⟩
  exact apart.forall first second differs b seen b seen' rfl

def seeing {ν : Type*} (M : StepMachine σ ε ω) (view : ω → Option ν) : StepMachine σ ε ν :=
  ⟨fun s e => ((M.step s e).1, (M.step s e).2.filterMap view)⟩

theorem seeing_run {ν : Type*} (M : StepMachine σ ε ω) (view : ω → Option ν) (s : σ)
    (es : List ε) : (M.seeing view).run s es = M.run s es := by
  induction es generalizing s with
  | nil => rfl
  | cons e es ih => exact ih (M.next s e)

theorem seeing_trace {ν : Type*} (M : StepMachine σ ε ω) (view : ω → Option ν) (s : σ)
    (es : List ε) : (M.seeing view).trace s es = (M.trace s es).filterMap view := by
  induction es generalizing s with
  | nil => rfl
  | cons e es ih =>
      rw [trace_cons, trace_cons, List.filterMap_append]
      exact congrArg _ (ih (M.next s e))

theorem seeing_allSteps {ν : Type*} (M : StepMachine σ ε ω) (view : ω → Option ν)
    (P : σ → ε → Prop) (s : σ) (es : List ε) :
    (M.seeing view).AllSteps P s es ↔ M.AllSteps P s es := by
  induction es generalizing s with
  | nil => exact Iff.rfl
  | cons e es ih => exact and_congr_right fun _ => ih (M.next s e)

/-- From related states every guarded step of `M` is matched by a legal run of `N`. What `M`
brings out in the step is the image of what `N` brings out in the run. -/
structure Simulation (M : StepMachine σ ε ω) (N : StepMachine σ' ε' ω') (rel : σ → σ' → Prop)
    (guard : σ → ε → Prop) (legal : σ' → ε' → Prop) (image : ω' → List ω) : Prop where
  step : ∀ s e x, rel s x → guard s e → ∃ xs, rel (M.next s e) (N.run x xs) ∧
    M.emit s e = (N.trace x xs).flatMap image ∧ N.AllSteps legal x xs

def looking {β : Type*} (M : StepMachine σ ε ω) (look : σ → ε → List β) : StepMachine σ ε β :=
  ⟨fun s e => (M.next s e, look s e)⟩

structure Translation (M : StepMachine σ ε ω) (N : StepMachine σ' ε' ω) (abs : σ → σ')
    (steps : σ → ε → List ε') : Prop where
  next : ∀ s e, abs (M.next s e) = N.run (abs s) (steps s e)
  emit : ∀ s e, M.emit s e = N.trace (abs s) (steps s e)

theorem Translation.run {M : StepMachine σ ε ω} {N : StepMachine σ' ε' ω} {abs : σ → σ'}
    {steps : σ → ε → List ε'} (translates : Translation M N abs steps) (s : σ) (es : List ε) :
    abs (M.run s es) = N.run (abs s) ((M.looking steps).trace s es) ∧
      M.trace s es = N.trace (abs s) ((M.looking steps).trace s es) := by
  induction es generalizing s with
  | nil => exact ⟨rfl, rfl⟩
  | cons e es ih =>
      rcases ih (M.next s e) with ⟨state, later⟩
      rw [translates.next] at state later
      have split : (M.looking steps).trace s (e :: es) =
          steps s e ++ (M.looking steps).trace (M.next s e) es := rfl
      rw [split, N.run_append, N.trace_append]
      constructor
      · exact state
      · rw [trace_cons, translates.emit, later]

variable {M : StepMachine σ ε ω} {N : StepMachine σ' ε' ω'} {rel : σ → σ' → Prop}
  {guard : σ → ε → Prop} {legal : σ' → ε' → Prop} {image : ω' → List ω}

/-- A whole run is matched by a whole run. -/
theorem Simulation.run (sim : Simulation M N rel guard legal image) {s : σ} {es : List ε} {x : σ'}
    (related : rel s x) (guarded : M.AllSteps guard s es) :
    ∃ xs, rel (M.run s es) (N.run x xs) ∧ M.trace s es = (N.trace x xs).flatMap image ∧
      N.AllSteps legal x xs := by
  induction es generalizing s x with
  | nil => exact ⟨[], related, rfl, trivial⟩
  | cons e es ih =>
      rcases guarded with ⟨now, later⟩
      rcases sim.step s e x related now with ⟨front, middle, first, meets⟩
      rcases ih middle later with ⟨back, final, rest, meets'⟩
      refine ⟨front ++ back, ?_, ?_, ?_⟩
      · rw [N.run_append]
        exact final
      · rw [trace_cons, first, rest, N.trace_append, List.flatMap_append]
      · rw [N.allSteps_append]
        exact ⟨meets, meets'⟩

theorem filterMap_images {α β : Type*} {image : ω' → List ω} {p : ω → Option β} {q : ω' → Option α}
    {g : α → β} (same : ∀ o, (image o).filterMap p = ((q o).map g).toList) (outs : List ω') :
    (outs.flatMap image).filterMap p = (outs.filterMap q).map g := by
  induction outs with
  | nil => rfl
  | cons o outs ih =>
      rw [List.flatMap_cons, List.filterMap_append, same, ih, List.filterMap_cons]
      cases q o <;> rfl

structure Channel {α : Type*} (N : StepMachine σ' ε' ω') (held : σ' → List α)
    (enters leaves : ω' → Option α) : Prop where
  step : ∀ x e, held x ++ (N.emit x e).filterMap enters =
    (N.emit x e).filterMap leaves ++ held (N.next x e)

theorem Channel.run {α : Type*} {held : σ' → List α} {enters leaves : ω' → Option α}
    (channel : Channel N held enters leaves) (x : σ') (xs : List ε') :
    held x ++ (N.trace x xs).filterMap enters =
      (N.trace x xs).filterMap leaves ++ held (N.run x xs) := by
  induction xs generalizing x with
  | nil => simp
  | cons e xs ih =>
      calc
        held x ++ (N.trace x (e :: xs)).filterMap enters =
            held x ++ (N.emit x e).filterMap enters ++
              (N.trace (N.next x e) xs).filterMap enters := by simp
        _ = (N.emit x e).filterMap leaves ++
              (held (N.next x e) ++ (N.trace (N.next x e) xs).filterMap enters) := by
          rw [channel.step, List.append_assoc]
        _ = (N.trace x (e :: xs)).filterMap leaves ++ held (N.run x (e :: xs)) := by
          rw [ih]
          simp

theorem Channel.leaves_prefix {α : Type*} {held : σ' → List α} {enters leaves : ω' → Option α}
    (channel : Channel N held enters leaves) {x : σ'} (empty : held x = []) (xs : List ε') :
    (N.trace x xs).filterMap leaves <+: (N.trace x xs).filterMap enters := by
  have conserved := channel.run x xs
  rw [empty, List.nil_append] at conserved
  exact ⟨_, conserved.symm⟩

end StepMachine
