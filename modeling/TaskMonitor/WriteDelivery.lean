import TaskMonitor.Socket

/-! The `write` calls that `writeSocket` makes, one by one. -/

namespace TaskMonitor

/-- `write(fd, data + offset, len)`, and what became of it. -/
structure WriteCall where
  offset : Nat
  len : Nat
  outcome : WriteOutcome
  deriving DecidableEq, Repr

namespace WriteCall

def accepted (data : List UInt8) (call : WriteCall) : List UInt8 :=
  match call.outcome with
  | .count n => (data.drop call.offset).take (min n call.len)
  | _ => []

end WriteCall

/-- The calls of the loop of `writeSocket` from offset `writeN` on. -/
def writeCalls (data : List UInt8) (writeN : Nat) : List WriteOutcome → List WriteCall
  | [] => []
  | .again :: outcomes =>
      ⟨writeN, data.length - writeN, .again⟩ :: writeCalls data writeN outcomes
  | .error :: _ => [⟨writeN, data.length - writeN, .error⟩]
  | .count n :: outcomes =>
      let ret := min n (data.length - writeN)
      let call : WriteCall := ⟨writeN, data.length - writeN, .count n⟩
      if writeN + ret = data.length then [call]
      else call :: writeCalls data (writeN + ret) outcomes

def kernelBytes (data : List UInt8) (calls : List WriteCall) : List UInt8 :=
  calls.flatMap (WriteCall.accepted data)

theorem kernelBytes_cons (data : List UInt8) (call : WriteCall) (calls : List WriteCall) :
    kernelBytes data (call :: calls) = call.accepted data ++ kernelBytes data calls :=
  List.flatMap_cons

theorem kernelBytes_writeCalls (data : List UInt8) (writeN : Nat) (outcomes : List WriteOutcome) :
    kernelBytes data (writeCalls data writeN outcomes) = (writeLoop data writeN outcomes).sent := by
  induction outcomes generalizing writeN with
  | nil => rfl
  | cons outcome outcomes ih =>
      cases outcome with
      | again =>
          rw [writeCalls, writeLoop, kernelBytes_cons, ih]
          exact List.nil_append _
      | error => rfl
      | count n =>
          rw [writeCalls, writeLoop]
          by_cases full : writeN + min n (data.length - writeN) = data.length
          · simp only [full, ↓reduceIte]
            exact List.append_nil _
          · simp only [full, ↓reduceIte]
            rw [kernelBytes_cons, ih]
            rfl

theorem writeCalls_outcomes (data : List UInt8) (writeN : Nat) (outcomes : List WriteOutcome) :
    outcomes = (writeCalls data writeN outcomes).map WriteCall.outcome ++
      (writeLoop data writeN outcomes).rest := by
  induction outcomes generalizing writeN with
  | nil => rfl
  | cons outcome outcomes ih =>
      cases outcome with
      | again =>
          rw [writeCalls, writeLoop, List.map_cons, List.cons_append, ← ih]
      | error => rfl
      | count n =>
          rw [writeCalls, writeLoop]
          by_cases full : writeN + min n (data.length - writeN) = data.length
          · simp only [full, ↓reduceIte]
            rfl
          · simp only [full, ↓reduceIte]
            rw [List.map_cons, List.cons_append, ← ih]

theorem writeCalls_inside (data : List UInt8) (writeN : Nat) (outcomes : List WriteOutcome)
    (inside : writeN ≤ data.length) :
    ∀ call ∈ writeCalls data writeN outcomes, call.offset + call.len = data.length := by
  induction outcomes generalizing writeN with
  | nil => simp [writeCalls]
  | cons outcome outcomes ih =>
      have here : writeN + (data.length - writeN) = data.length := by omega
      intro call member
      cases outcome with
      | again =>
          rw [writeCalls, List.mem_cons] at member
          cases member with
          | inl first => rw [first]; exact here
          | inr later => exact ih writeN inside call later
      | error =>
          rw [writeCalls, List.mem_singleton] at member
          rw [member]
          exact here
      | count n =>
          rw [writeCalls] at member
          by_cases full : writeN + min n (data.length - writeN) = data.length
          · simp only [full, ↓reduceIte, List.mem_singleton] at member
            rw [member]
            exact here
          · simp only [full, ↓reduceIte, List.mem_cons] at member
            cases member with
            | inl first => rw [first]; exact here
            | inr later => exact ih _ (by omega) call later

/-- `writeSocket` against the kernel's account of its calls. -/
structure Delivered (data : List UInt8) (ret : Option Int) (calls : List WriteCall) : Prop where
  whole : ret = some 0 → kernelBytes data calls = data
  part : ret = some (-1) → kernelBytes data calls <+: data
  failed : ret = some (-1) → calls.getLast?.map WriteCall.outcome = some .error
  inside : ∀ call ∈ calls, call.offset + call.len = data.length

/-- What the kernel takes is what `writeSocket` reports as sent. -/
theorem writeSocket_delivers (data : List UInt8) (outcomes : List WriteOutcome) :
    Delivered data (writeSocket data outcomes).ret (writeCalls data 0 outcomes) ∧
      kernelBytes data (writeCalls data 0 outcomes) = (writeSocket data outcomes).sent := by
  have bytes := kernelBytes_writeCalls data 0 outcomes
  refine ⟨?_, bytes⟩
  have used_up := writeCalls_outcomes data 0 outcomes
  have inside := writeCalls_inside data 0 outcomes (Nat.zero_le _)
  have wrote := writeSocket_wrote data outcomes
  rw [← writeSocket] at bytes used_up
  generalize writeSocket data outcomes = result at bytes used_up wrote ⊢
  cases wrote with
  | done used rest split clean accepted =>
      exact ⟨fun _ => bytes, by simp, by simp, inside⟩
  | failed used rest sent split clean part proper accepted =>
      have last : (writeCalls data 0 outcomes).map WriteCall.outcome = used ++ [.error] := by
        apply List.append_cancel_right
        calc
          (writeCalls data 0 outcomes).map WriteCall.outcome ++ rest = outcomes := used_up.symm
          _ = used ++ .error :: rest := split
          _ = used ++ [.error] ++ rest := by rw [List.append_assoc]; rfl
      refine ⟨by simp, fun _ => bytes ▸ part, fun _ => ?_, inside⟩
      rw [← List.getLast?_map, last, List.getLast?_concat]
  | waiting sent clean part proper accepted =>
      exact ⟨by simp, by simp, by simp, inside⟩

end TaskMonitor
