import TaskMonitor.Library.StepMachine

/-! Self-delimiting codes and the receiver of a segmented stream.

A code word announces its own end, so a stream of code words that arrives in arbitrary
pieces can be taken apart again. `receiver` is the abstract receiver: it buffers what
arrives and takes at most one code word off the front on each arrival. -/

structure SelfDelimiting (φ β : Type*) where
  encode : φ → List β
  split : List β → Option (φ × List β)
  encode_ne_nil : ∀ f, encode f ≠ []
  split_eq_some_iff : ∀ b f rest, split b = some (f, rest) ↔ b = encode f ++ rest

namespace SelfDelimiting

variable {φ β : Type*} (code : SelfDelimiting φ β)

def encodeAll (fs : List φ) : List β := (fs.map code.encode).flatten

def Partial (p : List β) : Prop := ∃ f q, q ≠ [] ∧ p ++ q = code.encode f

def Drained (b : List β) : Prop := code.split b = none

@[simp] theorem encodeAll_nil : code.encodeAll [] = [] := rfl

@[simp] theorem encodeAll_cons (f : φ) (fs : List φ) :
    code.encodeAll (f :: fs) = code.encode f ++ code.encodeAll fs := by
  simp [encodeAll]

theorem encodeAll_append (front back : List φ) :
    code.encodeAll (front ++ back) = code.encodeAll front ++ code.encodeAll back := by
  simp [encodeAll]

theorem split_encode (f : φ) (rest : List β) :
    code.split (code.encode f ++ rest) = some (f, rest) :=
  (code.split_eq_some_iff _ f rest).mpr rfl

theorem encode_cancel {f g : φ} {a b : List β} (same : code.encode f ++ a = code.encode g ++ b) :
    f = g ∧ a = b := by
  have both := code.split_encode f a
  rw [same, code.split_encode] at both
  simp only [Option.some.injEq, Prod.mk.injEq] at both
  exact ⟨both.1.symm, both.2.symm⟩

theorem drained_of_partial {p : List β} (cut : code.Partial p) : code.Drained p := by
  rcases cut with ⟨f, q, missing, whole⟩
  cases found : code.split p with
  | none => exact found
  | some taken =>
      rcases taken with ⟨g, rest⟩
      have shape := (code.split_eq_some_iff p g rest).mp found
      have same : code.encode f ++ [] = code.encode g ++ (rest ++ q) := by
        rw [List.append_nil, ← whole, shape, List.append_assoc]
      have empty := (code.encode_cancel same).2
      exact absurd (List.append_eq_nil_iff.mp empty.symm).2 missing

private theorem prefix_append_cases {b front back : List β} (pre : b <+: front ++ back) :
    b <+: front ∨ ∃ rest, b = front ++ rest ∧ rest <+: back := by
  rcases List.prefix_or_prefix_of_prefix pre (List.prefix_append front back) with short | long
  · exact .inl short
  · rcases long with ⟨rest, rfl⟩
    exact .inr ⟨rest, rfl, (List.prefix_append_right_inj front).mp pre⟩

theorem prefix_cases {b : List β} {fs : List φ} (pre : b <+: code.encodeAll fs) :
    code.Drained b ∨ ∃ f later rest, fs = f :: later ∧ code.split b = some (f, rest) ∧
      b = code.encode f ++ rest ∧ rest <+: code.encodeAll later := by
  cases fs with
  | nil =>
      have empty : b = [] := List.prefix_nil.mp pre
      subst empty
      left
      cases found : code.split [] with
      | none => exact found
      | some taken =>
          have shape := (code.split_eq_some_iff [] taken.1 taken.2).mp found
          exact absurd (List.append_eq_nil_iff.mp shape.symm).1 (code.encode_ne_nil _)
  | cons f later =>
      rw [encodeAll_cons] at pre
      rcases prefix_append_cases pre with short | ⟨rest, rfl, tail⟩
      · rcases short with ⟨q, whole⟩
        by_cases missing : q = []
        · subst missing
          rw [List.append_nil] at whole
          subst whole
          right
          refine ⟨f, later, [], rfl, ?_, (List.append_nil _).symm, List.nil_prefix⟩
          simpa using code.split_encode f []
        · exact .inl (code.drained_of_partial ⟨f, q, missing, whole⟩)
      · exact .inr ⟨f, later, rest, rfl, code.split_encode f rest, rfl, tail⟩

structure Arrival (β : Type*) where
  piece : List β
  attempt : Bool

def takeOne (b : List β) : List β × List φ :=
  match code.split b with
  | none => (b, [])
  | some (f, rest) => (rest, [f])

def receiver : StepMachine (List β) (Arrival β) φ where
  step b a := if a.attempt then code.takeOne (b ++ a.piece) else (b ++ a.piece, [])

def arrived (as : List (Arrival β)) : List β := (as.map Arrival.piece).flatten

theorem takeOne_conserves (b : List β) :
    code.encodeAll (code.takeOne b).2 ++ (code.takeOne b).1 = b := by
  rw [takeOne]
  split
  · rfl
  · rename_i f rest found
    simpa using ((code.split_eq_some_iff b f rest).mp found).symm

theorem receiver_conserves (b : List β) (a : Arrival β) :
    code.encodeAll (code.receiver.emit b a) ++ code.receiver.next b a = b ++ a.piece := by
  rw [StepMachine.emit, StepMachine.next, receiver]
  dsimp only
  split
  · exact code.takeOne_conserves _
  · rfl

theorem run_conserves (b : List β) (as : List (Arrival β)) :
    code.encodeAll (code.receiver.trace b as) ++ code.receiver.run b as = b ++ arrived as := by
  induction as generalizing b with
  | nil => simp [arrived]
  | cons a as ih =>
      have step := code.receiver_conserves b a
      calc
        code.encodeAll (code.receiver.trace b (a :: as)) ++ code.receiver.run b (a :: as) =
            code.encodeAll (code.receiver.emit b a) ++
              (code.encodeAll (code.receiver.trace (code.receiver.next b a) as) ++
                code.receiver.run (code.receiver.next b a) as) := by
          simp [encodeAll_append]
        _ = (code.encodeAll (code.receiver.emit b a) ++ code.receiver.next b a) ++ arrived as := by
          rw [ih, List.append_assoc]
        _ = b ++ arrived (a :: as) := by
          rw [step]
          simp [arrived]

theorem prefix_of_encodeAll_prefix {ds fs : List φ} {b : List β}
    (pre : code.encodeAll ds ++ b <+: code.encodeAll fs) :
    ∃ later, fs = ds ++ later ∧ b <+: code.encodeAll later := by
  induction ds generalizing fs with
  | nil => exact ⟨fs, rfl, pre⟩
  | cons d ds ih =>
      rw [encodeAll_cons, List.append_assoc] at pre
      rcases code.prefix_cases pre with drained | ⟨f, later, rest, rfl, found, _, tail⟩
      · rw [Drained, code.split_encode] at drained
        cases drained
      · rw [code.split_encode] at found
        simp only [Option.some.injEq, Prod.mk.injEq] at found
        rcases found with ⟨rfl, rfl⟩
        rcases ih tail with ⟨remaining, rfl, inside⟩
        exact ⟨remaining, rfl, inside⟩

/-- Of a stream of code words, a receiver that starts empty takes the first ones, in order,
and keeps the rest of what arrived. -/
theorem run_in_order {as : List (Arrival β)} {fs : List φ}
    (stream : arrived as <+: code.encodeAll fs) :
    ∃ later, fs = code.receiver.trace [] as ++ later ∧
      code.receiver.run [] as <+: code.encodeAll later := by
  have conserved := code.run_conserves [] as
  rw [List.nil_append] at conserved
  rw [← conserved] at stream
  exact code.prefix_of_encodeAll_prefix stream

def completed : List φ → Nat → Nat
  | [], _ => 0
  | f :: fs, n =>
      if (code.encode f).length ≤ n then completed fs (n - (code.encode f).length) + 1 else 0

theorem completed_append (ds fs : List φ) (m : Nat) :
    code.completed (ds ++ fs) ((code.encodeAll ds).length + m) =
      ds.length + code.completed fs m := by
  induction ds with
  | nil => simp
  | cons d ds ih =>
      have rest : (code.encode d).length + (code.encodeAll ds).length + m - (code.encode d).length =
          (code.encodeAll ds).length + m := by omega
      rw [List.cons_append, encodeAll_cons, List.length_append, completed, if_pos (by omega), rest,
        ih, List.length_cons]
      omega

theorem drained_iff_completed {b : List β} {fs : List φ} (pre : b <+: code.encodeAll fs) :
    code.Drained b ↔ code.completed fs b.length = 0 := by
  rcases code.prefix_cases pre with drained | ⟨f, later, rest, rfl, found, rfl, tail⟩
  · apply iff_of_true drained
    cases fs with
    | nil => rfl
    | cons f later =>
        rw [completed, if_neg]
        intro enough
        rw [encodeAll_cons] at pre
        have first := List.prefix_append (code.encode f) (code.encodeAll later)
        have whole := List.prefix_of_prefix_length_le first pre enough
        rcases whole with ⟨rest, rfl⟩
        rw [Drained, code.split_encode] at drained
        cases drained
  · apply iff_of_false (by simp [Drained, found])
    rw [completed, if_pos (by simp)]
    omega

/-- Each arrival completes at most one code word, and then looks for it. -/
def OneAtATime (fs : List φ) : Nat → List (Arrival β) → Prop
  | _, [] => True
  | n, a :: as =>
      code.completed fs (n + a.piece.length) ≤ code.completed fs n + 1 ∧
        (code.completed fs n < code.completed fs (n + a.piece.length) → a.attempt = true) ∧
        OneAtATime fs (n + a.piece.length) as

private theorem drained_next_iff {b : List β} {ds fs : List φ} {a : Arrival β}
    (drained : code.Drained b) (stream : b ++ a.piece <+: code.encodeAll fs) (n : Nat)
    (seen : n = (code.encodeAll ds).length + b.length) :
    code.Drained (code.receiver.next b a) ↔
      code.completed (ds ++ fs) (n + a.piece.length) ≤ code.completed (ds ++ fs) n + 1 ∧
        (code.completed (ds ++ fs) n < code.completed (ds ++ fs) (n + a.piece.length) →
          a.attempt = true) := by
  have inside : b <+: code.encodeAll fs := (List.prefix_append b a.piece).trans stream
  have before : code.completed (ds ++ fs) n = ds.length := by
    rw [seen, completed_append, (code.drained_iff_completed inside).mp drained, Nat.add_zero]
  have after : code.completed (ds ++ fs) (n + a.piece.length) =
      ds.length + code.completed fs (b ++ a.piece).length := by
    rw [seen, Nat.add_assoc, completed_append, List.length_append]
  rw [before, after]
  -- either no word ends in the piece, or the buffer begins with a whole one
  rcases code.prefix_cases stream with quiet | ⟨f, later, rest, rfl, found, whole, tail⟩
  · have none_ended := (code.drained_iff_completed stream).mp quiet
    have stays : code.receiver.next b a = b ++ a.piece := by
      have missed : code.split (b ++ a.piece) = none := quiet
      simp [StepMachine.next, receiver, takeOne, missed]
    rw [stays, none_ended]
    exact iff_of_true quiet ⟨by omega, by omega⟩
  · have one_more : code.completed (f :: later) (b ++ a.piece).length =
        code.completed later rest.length + 1 := by
      rw [whole, completed, if_pos (by simp), List.length_append, Nat.add_sub_cancel_left]
    rw [one_more]
    -- the completed word goes only if the receiver looks for one, and no second goes with it
    cases tried : a.attempt with
    | false =>
        have stays : code.receiver.next b a = b ++ a.piece := by
          simp [StepMachine.next, receiver, tried]
        rw [stays]
        apply iff_of_false (by simp [Drained, found])
        intro atMost
        have looked := atMost.2
        exact absurd (looked (by omega)) (by simp)
    | true =>
        have taken : code.receiver.next b a = rest := by
          simp [StepMachine.next, receiver, tried, takeOne, found]
        rw [taken, code.drained_iff_completed tail]
        constructor
        · intro zero
          exact ⟨by omega, fun _ => rfl⟩
        · intro completes
          have atMost := completes.1
          omega

/-- A receiver stays drained over a whole run exactly when the code words end one at a time. -/
theorem stays_drained_iff {b : List β} {ds fs : List φ} {as : List (Arrival β)}
    (drained : code.Drained b) (stream : b ++ arrived as <+: code.encodeAll fs) (n : Nat)
    (seen : n = (code.encodeAll ds).length + b.length) :
    code.receiver.AllSteps (fun b a => code.Drained (code.receiver.next b a)) b as ↔
      code.OneAtATime (ds ++ fs) n as := by
  induction as generalizing b ds fs n with
  | nil => exact Iff.rfl
  | cons a as ih =>
      have pieces : arrived (a :: as) = a.piece ++ arrived as := by simp [arrived]
      rw [pieces, ← List.append_assoc] at stream
      have now : b ++ a.piece <+: code.encodeAll fs := (List.prefix_append _ _).trans stream
      have step := code.drained_next_iff drained now n seen
      have conserved := code.receiver_conserves b a
      rw [← conserved, List.append_assoc] at stream
      rcases code.prefix_of_encodeAll_prefix stream with ⟨later, rfl, tail⟩
      have seenNext : n + a.piece.length =
          (code.encodeAll (ds ++ code.receiver.emit b a)).length +
            (code.receiver.next b a).length := by
        have lengths := congrArg List.length conserved
        rw [List.length_append, List.length_append] at lengths
        rw [encodeAll_append, List.length_append]
        omega
      rw [StepMachine.allSteps_cons, OneAtATime, ← and_assoc, ← step]
      apply and_congr_right
      intro next
      rw [ih next tail _ seenNext, List.append_assoc]

end SelfDelimiting
