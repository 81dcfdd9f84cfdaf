import TaskMonitor.Library.Simulation
import Mathlib.Logic.Function.Basic

/-! Any number of machines that share a part of their states.

Their steps are taken in any order. Each of them sees a run of its own, in which the others only
change the shared part between two of its steps. -/

namespace StepMachine

variable {ι α σ ε ω : Type*}

/-- A part of a machine's state that others may change, and the event in which they do. -/
structure Sharing (M : StepMachine α ε ω) (σ : Type*) where
  get : α → σ
  put : σ → α → α
  changed : σ → ε
  get_put : ∀ w a, get (put w a) = w
  put_get : ∀ a, put (get a) a = a
  put_put : ∀ w w' a, put w (put w' a) = put w a
  step_changed : ∀ w a, M.step a (changed w) = (put w a, [])

/-- The members of a group, and what they share. What a member's own state has of it counts for
nothing. -/
structure Together (ι α σ : Type*) where
  members : ι → α
  shared : σ

variable {M : StepMachine α ε ω} (share : Sharing M σ)

def Together.member (s : Together ι α σ) (i : ι) : α := share.put s.shared (s.members i)

variable [DecidableEq ι]

def together : StepMachine (Together ι α σ) (ι × ε) (ι × ω) where
  step s e :=
    let after := M.next (s.member share e.1) e.2
    (⟨Function.update s.members e.1 after, share.get after⟩,
      (M.emit (s.member share e.1) e.2).map (Prod.mk e.1))

def Together.out? (i : ι) (o : ι × ω) : Option ω := if o.1 = i then some o.2 else none

theorem Together.outs_self (i : ι) (outs : List ω) :
    (outs.map (Prod.mk i)).filterMap (out? i) = outs := by
  have own : (out? i ∘ Prod.mk i : ω → Option ω) = some := funext fun _ => if_pos rfl
  rw [List.filterMap_map, own]
  exact List.filterMap_some

theorem Together.outs_other {i j : ι} (differs : j ≠ i) (outs : List ω) :
    (outs.map (Prod.mk j)).filterMap (out? i) = [] := by
  have other : (out? i ∘ Prod.mk j : ω → Option ω) = fun _ => none := funext fun _ => if_neg differs
  rw [List.filterMap_map, other]
  exact List.filterMap_none _

theorem Together.mem_outs {i : ι} {o : ω} {outs : List (ι × ω)} :
    o ∈ outs.filterMap (out? i) ↔ (i, o) ∈ outs := by
  rw [List.mem_filterMap]
  constructor
  · intro found
    rcases found with ⟨⟨j, o'⟩, member, same⟩
    simp only [out?] at same
    split at same
    · rename_i own
      obtain rfl := own
      obtain rfl := Option.some.inj same
      exact member
    · cases same
  · intro member
    exact ⟨(i, o), member, if_pos rfl⟩

theorem together_own (s : Together ι α σ) (i : ι) (e : ε) :
    ((together share).next s (i, e)).member share i = M.next (s.member share i) e := by
  change share.put (share.get (M.next (s.member share i) e))
    (Function.update s.members i (M.next (s.member share i) e) i) = _
  rw [Function.update_self, share.put_get]

theorem together_other (s : Together ι α σ) {i j : ι} (differs : i ≠ j) (e : ε) :
    ((together share).next s (j, e)).member share i =
      share.put ((together share).next s (j, e)).shared (s.member share i) := by
  change share.put _ (Function.update s.members j _ i) = _
  rw [Function.update_of_ne differs, Together.member, share.put_put]

theorem mem_together_trace {i : ι} {s : Together ι α σ} {es : List (ι × ε)} {o : ω}
    (emitted : (i, o) ∈ (together share).trace s es) :
    ∃ front e back, es = front ++ (i, e) :: back ∧
      o ∈ M.emit (((together share).run s front).member share i) e := by
  rcases mem_trace.mp emitted with ⟨front, ⟨j, e⟩, back, rfl, now⟩
  rcases List.mem_map.mp now with ⟨o', own, same⟩
  rcases Prod.mk.inj same with ⟨rfl, rfl⟩
  exact ⟨front, e, back, rfl, own⟩

variable {guard : α → ε → Prop}

/-- Each member sees a run of its own, whatever the others do in between. -/
theorem together_simulates (free : ∀ w a, guard a (share.changed w)) (i : ι) :
    Simulation ((together share).seeing (Together.out? i)) M
      (fun s a => s.member share i = a) (fun s e => guard (s.member share e.1) e.2) guard
      (fun o => [o]) where
  step := by
    intro s e a same meets
    subst same
    rcases e with ⟨j, e⟩
    by_cases own : i = j
    · subst own
      refine ⟨[e], together_own share s i e, ?_, meets, trivial⟩
      rw [List.flatMap_singleton', trace_one]
      exact Together.outs_self i _
    · have silent : ((together share).seeing (Together.out? i)).emit s (j, e) = [] :=
        Together.outs_other (Ne.symm own) _
      have after := share.step_changed ((together share).next s (j, e)).shared (s.member share i)
      have moved := congrArg Prod.fst after
      have quiet := congrArg Prod.snd after
      refine ⟨[share.changed ((together share).next s (j, e)).shared], ?_, ?_, free _ _, trivial⟩
      · exact (together_other share s own e).trans (Eq.symm moved)
      · rw [silent, trace_one]
        exact (congrArg (List.flatMap fun o => [o]) quiet).symm

theorem together_run (free : ∀ w a, guard a (share.changed w)) (i : ι) {s : Together ι α σ}
    {es : List (ι × ε)}
    (meets : (together share).AllSteps (fun s e => guard (s.member share e.1) e.2) s es) :
    ∃ xs, ((together share).run s es).member share i = M.run (s.member share i) xs ∧
      ((together share).trace s es).filterMap (Together.out? i) = M.trace (s.member share i) xs ∧
      M.AllSteps guard (s.member share i) xs := by
  have guarded := ((together share).seeing_allSteps (Together.out? i) _ s es).mpr meets
  rcases (together_simulates share free i).run rfl guarded with ⟨xs, state, outs, legal⟩
  rw [seeing_run] at state
  rw [seeing_trace, List.flatMap_singleton'] at outs
  exact ⟨xs, state, outs, legal⟩

end StepMachine
