import Mathlib.Data.List.Basic

/-! Deterministic machines that emit outputs.

A machine is one step function. Everything said about a whole run is derived here
once from what one step does. -/

structure StepMachine (σ ε ω : Type*) where
  step : σ → ε → σ × List ω

namespace StepMachine

variable {σ ε ω : Type*} (M : StepMachine σ ε ω)

def next (s : σ) (e : ε) : σ := (M.step s e).1

def emit (s : σ) (e : ε) : List ω := (M.step s e).2

def run : σ → List ε → σ
  | s, [] => s
  | s, e :: es => run (M.next s e) es

def trace : σ → List ε → List ω
  | _, [] => []
  | s, e :: es => M.emit s e ++ trace (M.next s e) es

/-- `P` holds of every step of the run: of the state before it and its event. -/
def AllSteps (P : σ → ε → Prop) : σ → List ε → Prop
  | _, [] => True
  | s, e :: es => P s e ∧ AllSteps P (M.next s e) es

instance decidableAllSteps (P : σ → ε → Prop) [∀ s e, Decidable (P s e)] :
    ∀ s es, Decidable (M.AllSteps P s es)
  | _, [] => .isTrue trivial
  | s, e :: es => @instDecidableAnd _ _ _ (decidableAllSteps P (M.next s e) es)

@[simp] theorem run_nil (s : σ) : M.run s [] = s := rfl

@[simp] theorem run_cons (s : σ) (e : ε) (es : List ε) :
    M.run s (e :: es) = M.run (M.next s e) es := rfl

@[simp] theorem trace_nil (s : σ) : M.trace s [] = [] := rfl

@[simp] theorem trace_cons (s : σ) (e : ε) (es : List ε) :
    M.trace s (e :: es) = M.emit s e ++ M.trace (M.next s e) es := rfl

@[simp] theorem allSteps_nil (P : σ → ε → Prop) (s : σ) : M.AllSteps P s [] := trivial

@[simp] theorem allSteps_cons (P : σ → ε → Prop) (s : σ) (e : ε) (es : List ε) :
    M.AllSteps P s (e :: es) ↔ P s e ∧ M.AllSteps P (M.next s e) es := Iff.rfl

theorem run_append (s : σ) (front back : List ε) :
    M.run s (front ++ back) = M.run (M.run s front) back := by
  induction front generalizing s with
  | nil => rfl
  | cons e es ih => exact ih (M.next s e)

theorem trace_append (s : σ) (front back : List ε) :
    M.trace s (front ++ back) = M.trace s front ++ M.trace (M.run s front) back := by
  induction front generalizing s with
  | nil => rfl
  | cons e es ih => simp only [List.cons_append, trace_cons, run_cons, ih, List.append_assoc]

theorem allSteps_append (P : σ → ε → Prop) (s : σ) (front back : List ε) :
    M.AllSteps P s (front ++ back) ↔ M.AllSteps P s front ∧ M.AllSteps P (M.run s front) back := by
  induction front generalizing s with
  | nil => simp
  | cons e es ih => simp only [List.cons_append, allSteps_cons, run_cons, ih, and_assoc]

theorem allSteps_true (P : σ → ε → Prop) (always : ∀ s e, P s e) (s : σ) (es : List ε) :
    M.AllSteps P s es := by
  induction es generalizing s with
  | nil => trivial
  | cons e es ih => exact ⟨always s e, ih (M.next s e)⟩

theorem allSteps_of_events {P : ε → Prop} {es : List ε} (events : ∀ e ∈ es, P e) (s : σ) :
    M.AllSteps (fun _ e => P e) s es := by
  induction es generalizing s with
  | nil => trivial
  | cons e es ih =>
      have later : ∀ e' ∈ es, P e' := fun e' member => events e' (List.mem_cons_of_mem e member)
      exact ⟨events e List.mem_cons_self, ih later _⟩

theorem allSteps_imp {P Q : σ → ε → Prop} (weaker : ∀ s e, P s e → Q s e) {s : σ} {es : List ε}
    (meets : M.AllSteps P s es) : M.AllSteps Q s es := by
  induction es generalizing s with
  | nil => trivial
  | cons e es ih => exact ⟨weaker s e meets.1, ih meets.2⟩

theorem allSteps_mp {P Q : σ → ε → Prop} {s : σ} {es : List ε}
    (implies : M.AllSteps (fun s e => P s e → Q s e) s es) (meets : M.AllSteps P s es) :
    M.AllSteps Q s es := by
  induction es generalizing s with
  | nil => trivial
  | cons e es ih => exact ⟨implies.1 meets.1, ih implies.2 meets.2⟩

theorem allSteps_and (P Q : σ → ε → Prop) (s : σ) (es : List ε) :
    M.AllSteps (fun s e => P s e ∧ Q s e) s es ↔ M.AllSteps P s es ∧ M.AllSteps Q s es := by
  constructor
  · intro both
    exact ⟨M.allSteps_imp (fun _ _ now => now.1) both, M.allSteps_imp (fun _ _ now => now.2) both⟩
  · intro each
    exact M.allSteps_mp (M.allSteps_imp (fun _ _ first second => ⟨first, second⟩) each.1) each.2

/-- A run meets `P` at every step exactly when `P` holds after each of its prefixes. -/
theorem allSteps_iff (P : σ → ε → Prop) (s : σ) (es : List ε) :
    M.AllSteps P s es ↔
      ∀ front e back, es = front ++ e :: back → P (M.run s front) e := by
  induction es generalizing s with
  | nil => simp
  | cons head tail ih =>
      rw [allSteps_cons, ih]
      constructor
      · intro both front e back split
        cases front with
        | nil =>
            rcases List.cons.inj split with ⟨rfl, rfl⟩
            exact both.1
        | cons f front =>
            rcases List.cons.inj split with ⟨rfl, rfl⟩
            exact both.2 front e back rfl
      · intro every
        refine ⟨every [] head tail rfl, ?_⟩
        intro front e back split
        exact every (head :: front) e back (by rw [split]; rfl)

/-- `P` holds after each prefix of a run exactly when it holds at first and every step of the run
leads to it. -/
theorem prefixes_iff (P : σ → Prop) (s : σ) (es : List ε) :
    (∀ front back, es = front ++ back → P (M.run s front)) ↔
      P s ∧ M.AllSteps (fun s e => P (M.next s e)) s es := by
  induction es generalizing s with
  | nil =>
      constructor
      · intro every
        exact ⟨every [] [] rfl, trivial⟩
      · intro both front back split
        rw [(List.append_eq_nil_iff.mp split.symm).1]
        exact both.1
  | cons e es ih =>
      rw [allSteps_cons, ← ih]
      constructor
      · intro every
        exact ⟨every [] (e :: es) rfl,
          fun front back split => every (e :: front) back (by rw [split]; rfl)⟩
      · intro both front back split
        cases front with
        | nil => exact both.1
        | cons f front =>
            rcases List.cons.inj split with ⟨rfl, rfl⟩
            exact both.2 front back rfl

theorem allSteps_congr {P Q : σ → ε → Prop} (inv : σ → Prop)
    (same : ∀ s e, inv s → (P s e ↔ Q s e)) (keeps : ∀ s e, inv s → P s e → inv (M.next s e))
    {s : σ} (initial : inv s) (es : List ε) : M.AllSteps P s es ↔ M.AllSteps Q s es := by
  induction es generalizing s with
  | nil => exact Iff.rfl
  | cons e es ih =>
      rw [allSteps_cons, allSteps_cons, ← same s e initial]
      exact and_congr_right fun now => ih (keeps s e initial now)

theorem run_invariant {P : σ → ε → Prop} (inv : σ → Prop)
    (preserves : ∀ s e, inv s → P s e → inv (M.next s e))
    {s : σ} {es : List ε} (initial : inv s) (meets : M.AllSteps P s es) :
    inv (M.run s es) := by
  induction es generalizing s with
  | nil => exact initial
  | cons e es ih => exact ih (preserves s e initial meets.1) meets.2

theorem run_invariant_all (inv : σ → Prop) (preserves : ∀ s e, inv s → inv (M.next s e))
    {s : σ} (es : List ε) (initial : inv s) : inv (M.run s es) :=
  M.run_invariant (P := fun _ _ => True) inv (fun s e held _ => preserves s e held) initial
    (M.allSteps_true _ (fun _ _ => trivial) s es)

theorem trace_forall {P : σ → ε → Prop} {Q : ω → Prop} (inv : σ → Prop)
    (preserves : ∀ s e, inv s → P s e → inv (M.next s e))
    (emits : ∀ s e, inv s → P s e → ∀ o ∈ M.emit s e, Q o)
    {s : σ} {es : List ε} (initial : inv s) (meets : M.AllSteps P s es) :
    ∀ o ∈ M.trace s es, Q o := by
  induction es generalizing s with
  | nil => simp
  | cons e es ih =>
      intro o member
      rcases List.mem_append.mp member with now | later
      · exact emits s e initial meets.1 o now
      · exact ih (preserves s e initial meets.1) meets.2 o later

def recording : StepMachine (σ × List ω) ε ω :=
  ⟨fun x e => ((M.next x.1 e, x.2 ++ M.emit x.1 e), M.emit x.1 e)⟩

theorem recording_run (s : σ) (log : List ω) (es : List ε) :
    M.recording.run (s, log) es = (M.run s es, log ++ M.trace s es) := by
  induction es generalizing s log with
  | nil => rw [run_nil, run_nil, trace_nil, List.append_nil]
  | cons e es ih =>
      rw [run_cons, run_cons, trace_cons, ← List.append_assoc]
      exact ih (M.next s e) (log ++ M.emit s e)

theorem recording_allSteps (P : σ → ε → Prop) (s : σ) (log : List ω) (es : List ε) :
    M.recording.AllSteps (fun x e => P x.1 e) (s, log) es ↔ M.AllSteps P s es := by
  induction es generalizing s log with
  | nil => exact Iff.rfl
  | cons e es ih =>
      rw [allSteps_cons, allSteps_cons]
      exact and_congr_right fun _ => ih (M.next s e) (log ++ M.emit s e)

variable {M} {σ' ε' ω' : Type*} {N : StepMachine σ' ε' ω'}

/-- `M` takes one step for each step of the abstract machine `N`, whenever the guard holds,
which speaks of the abstract machine only. Its outputs are images of the abstract ones. -/
structure Lockstep (M : StepMachine σ ε ω) (N : StepMachine σ' ε' ω') (abs : σ → σ')
    (event : ε → ε') (output : ω' → ω) (guard : σ' → ε' → Prop) : Prop where
  next : ∀ s e, guard (abs s) (event e) → abs (M.next s e) = N.next (abs s) (event e)
  emit : ∀ s e, guard (abs s) (event e) → M.emit s e = (N.emit (abs s) (event e)).map output

variable {abs : σ → σ'} {event : ε → ε'} {output : ω' → ω} {guard : σ' → ε' → Prop}

theorem Lockstep.run (lock : Lockstep M N abs event output guard) {s : σ} {es : List ε}
    (guarded : N.AllSteps guard (abs s) (es.map event)) :
    abs (M.run s es) = N.run (abs s) (es.map event) := by
  induction es generalizing s with
  | nil => rfl
  | cons e es ih =>
      rcases guarded with ⟨now, later⟩
      rw [← lock.next s e now] at later
      calc
        abs (M.run s (e :: es)) = abs (M.run (M.next s e) es) := rfl
        _ = N.run (abs (M.next s e)) (es.map event) := ih later
        _ = N.run (N.next (abs s) (event e)) (es.map event) := by rw [lock.next s e now]
        _ = N.run (abs s) ((e :: es).map event) := rfl

theorem Lockstep.trace (lock : Lockstep M N abs event output guard) {s : σ} {es : List ε}
    (guarded : N.AllSteps guard (abs s) (es.map event)) :
    M.trace s es = (N.trace (abs s) (es.map event)).map output := by
  induction es generalizing s with
  | nil => rfl
  | cons e es ih =>
      rcases guarded with ⟨now, later⟩
      rw [← lock.next s e now] at later
      calc
        M.trace s (e :: es) = M.emit s e ++ M.trace (M.next s e) es := rfl
        _ = (N.emit (abs s) (event e)).map output ++
              (N.trace (abs (M.next s e)) (es.map event)).map output := by
          rw [lock.emit s e now, ih later]
        _ = (N.emit (abs s) (event e) ++
              N.trace (N.next (abs s) (event e)) (es.map event)).map output := by
          rw [lock.next s e now, List.map_append]
        _ = (N.trace (abs s) ((e :: es).map event)).map output := rfl

theorem Lockstep.allSteps_after (lock : Lockstep M N abs event output guard) (P : σ' → Prop)
    {s : σ} {es : List ε} (guarded : N.AllSteps guard (abs s) (es.map event)) :
    M.AllSteps (fun s e => P (abs (M.next s e))) s es ↔
      N.AllSteps (fun s e => P (N.next s e)) (abs s) (es.map event) := by
  induction es generalizing s with
  | nil => exact Iff.rfl
  | cons e es ih =>
      rcases guarded with ⟨now, later⟩
      rw [← lock.next s e now] at later
      rw [allSteps_cons, ih later, List.map_cons, allSteps_cons, lock.next s e now]

end StepMachine
