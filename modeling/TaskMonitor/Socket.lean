import TaskMonitor.Library.BigEndian

/-! `writeSocket` of `task_msg.cpp`, and the three writes that put a frame on the wire. -/

namespace TaskMonitor

/-- What one `write` call does: fail with `EAGAIN` or `EINTR`, fail with another error, or
accept bytes. The kernel accepts at most what it was offered, and less than 2^31 bytes at a time,
so that `int ret` holds every count. -/
inductive WriteOutcome where
  | again
  | error
  | count (n : Nat)
  deriving DecidableEq, Repr

/-- `ret` is absent while the outcomes at hand do not let the call return. -/
structure WriteResult where
  ret : Option Int
  sent : List UInt8
  rest : List WriteOutcome
  deriving DecidableEq

def writeLoop (data : List UInt8) (writeN : Nat) : List WriteOutcome → WriteResult
  | [] => ⟨none, [], []⟩
  | .again :: outcomes => writeLoop data writeN outcomes
  | .error :: outcomes => ⟨some (-1), [], outcomes⟩
  | .count n :: outcomes =>
      let ret := min n (data.length - writeN)
      let accepted := (data.drop writeN).take ret
      if writeN + ret = data.length then ⟨some 0, accepted, outcomes⟩
      else
        let later := writeLoop data (writeN + ret) outcomes
        { later with sent := accepted ++ later.sent }

def writeSocket (data : List UInt8) (outcomes : List WriteOutcome) : WriteResult :=
  writeLoop data 0 outcomes

def htonl (word : UInt32) : List UInt8 := BigEndian.encode32 word

def ntohl (bytes : List UInt8) : UInt32 := BigEndian.decode32 bytes

/-- The writes of request id, length and data, with their results summed, as `sendRequest`
and `parseServerData` make them. -/
def writeFrame (reqId len : UInt32) (data : List UInt8) (outcomes : List WriteOutcome) :
    WriteResult :=
  let first := writeSocket (htonl reqId) outcomes
  let second := writeSocket (htonl len) first.rest
  let third := writeSocket (data.take len.toNat) second.rest
  { ret := do return (← first.ret) + (← second.ret) + (← third.ret)
    sent := first.sent ++ second.sent ++ third.sent
    rest := third.rest }

/-- Writes one after the other, each made whatever became of those before it. -/
def writeParts : List (List UInt8) → List WriteOutcome → WriteResult
  | [], outcomes => ⟨some 0, [], outcomes⟩
  | part :: parts, outcomes =>
      let first := writeSocket part outcomes
      let later := writeParts parts first.rest
      ⟨do return (← first.ret) + (← later.ret), first.sent ++ later.sent, later.rest⟩

theorem writeFrame_eq (reqId len : UInt32) (data : List UInt8) (outcomes : List WriteOutcome) :
    writeFrame reqId len data outcomes =
      writeParts [htonl reqId, htonl len, data.take len.toNat] outcomes := by
  simp only [writeFrame, writeParts, Option.bind_eq_bind, Option.pure_def, List.append_nil,
    List.append_assoc, Option.bind_assoc, Option.bind_some, add_zero, add_assoc]

def WriteOutcome.Quiet : WriteOutcome → Prop
  | .count n => n = 0
  | _ => True

def Accepted (sent : List UInt8) (used : List WriteOutcome) : Prop :=
  sent ≠ [] → ∃ o ∈ used, ¬ o.Quiet

theorem accepted_nil (used : List WriteOutcome) : Accepted [] used := fun some => absurd rfl some

theorem Accepted.append {front back : List UInt8} {used more : List WriteOutcome}
    (first : Accepted front used) (second : Accepted back more) :
    Accepted (front ++ back) (used ++ more) := by
  intro some
  by_cases empty : front = []
  · rw [empty] at some
    rcases second some with ⟨o, member, loud⟩
    exact ⟨o, List.mem_append_right used member, loud⟩
  · rcases first empty with ⟨o, member, loud⟩
    exact ⟨o, List.mem_append_left more member, loud⟩

inductive Wrote (data : List UInt8) (outcomes : List WriteOutcome) : WriteResult → Prop where
  | done (used rest : List WriteOutcome) (split : outcomes = used ++ rest)
      (clean : .error ∉ used) (accepted : Accepted data used) :
      Wrote data outcomes ⟨some 0, data, rest⟩
  | failed (used rest : List WriteOutcome) (sent : List UInt8)
      (split : outcomes = used ++ .error :: rest) (clean : .error ∉ used) (part : sent <+: data)
      (proper : data ≠ [] → sent ≠ data) (accepted : Accepted sent used) :
      Wrote data outcomes ⟨some (-1), sent, rest⟩
  | waiting (sent : List UInt8) (clean : .error ∉ outcomes) (part : sent <+: data)
      (proper : data ≠ [] → sent ≠ data) (accepted : Accepted sent outcomes) :
      Wrote data outcomes ⟨none, sent, []⟩

private theorem wrote_again {data : List UInt8} {outcomes : List WriteOutcome} {r : WriteResult}
    (wrote : Wrote data outcomes r) : Wrote data (.again :: outcomes) r := by
  have before := accepted_nil [.again]
  cases wrote with
  | done used rest split clean accepted =>
      exact .done (.again :: used) rest (by rw [split]; rfl) (by simpa using clean)
        (before.append accepted)
  | failed used rest sent split clean part proper accepted =>
      exact .failed (.again :: used) rest sent (by rw [split]; rfl) (by simpa using clean) part
        proper (before.append accepted)
  | waiting sent clean part proper accepted =>
      exact .waiting sent (by simpa using clean) part proper (before.append accepted)

private theorem wrote_count {front back : List UInt8} {n : Nat} {outcomes : List WriteOutcome}
    {r : WriteResult} (before : Accepted front [.count n]) (unfinished : back ≠ [])
    (wrote : Wrote back outcomes r) :
    Wrote (front ++ back) (.count n :: outcomes) { r with sent := front ++ r.sent } := by
  have extend {sent : List UInt8} (proper : back ≠ [] → sent ≠ back) :
      front ++ back ≠ [] → front ++ sent ≠ front ++ back := by
    intro _ same
    exact proper unfinished (List.append_cancel_left same)
  cases wrote with
  | done used rest split clean accepted =>
      have longer : .count n :: outcomes = (.count n :: used) ++ rest := by rw [split]; rfl
      exact .done (.count n :: used) rest longer (by simpa using clean) (before.append accepted)
  | failed used rest sent split clean part proper accepted =>
      exact .failed (.count n :: used) rest (front ++ sent) (by rw [split]; rfl)
        (by simpa using clean) ((List.prefix_append_right_inj front).mpr part) (extend proper)
        (before.append accepted)
  | waiting sent clean part proper accepted =>
      exact .waiting (front ++ sent) (by simpa using clean)
        ((List.prefix_append_right_inj front).mpr part) (extend proper) (before.append accepted)

theorem accepted_count (n : Nat) (bytes : List UInt8) (m : Nat) :
    Accepted (bytes.take (min n m)) [.count n] := by
  intro some
  refine ⟨.count n, List.mem_singleton_self _, ?_⟩
  intro zero
  have none_taken : n = 0 := zero
  rw [none_taken, Nat.zero_min] at some
  exact some List.take_zero

theorem writeLoop_wrote (data : List UInt8) (writeN : Nat) (outcomes : List WriteOutcome)
    (inside : writeN ≤ data.length) :
    Wrote (data.drop writeN) outcomes (writeLoop data writeN outcomes) := by
  induction outcomes generalizing writeN with
  | nil =>
      exact .waiting [] (by simp) List.nil_prefix (fun unfinished => Ne.symm unfinished)
        (accepted_nil [])
  | cons outcome outcomes ih =>
      cases outcome with
      | again => exact wrote_again (ih writeN inside)
      | error =>
          exact .failed [] outcomes [] rfl (by simp) List.nil_prefix
            (fun unfinished => Ne.symm unfinished) (accepted_nil [])
      | count n =>
          have taken := accepted_count n (data.drop writeN) (data.length - writeN)
          generalize chosen : min n (data.length - writeN) = ret at taken
          have split :
              (data.drop writeN).take ret ++ data.drop (writeN + ret) = data.drop writeN := by
            rw [← List.drop_drop]
            exact List.take_append_drop ret _
          by_cases full : writeN + ret = data.length
          · have whole : (data.drop writeN).take ret = data.drop writeN := by
              simpa [full] using split
            have unfolded : writeLoop data writeN (.count n :: outcomes) =
                ⟨some 0, data.drop writeN, outcomes⟩ := by
              simp [writeLoop, chosen, full, whole]
            rw [unfolded]
            rw [whole] at taken
            exact .done [.count n] outcomes rfl (by simp) taken
          · have unfolded : writeLoop data writeN (.count n :: outcomes) =
                { writeLoop data (writeN + ret) outcomes with
                  sent := (data.drop writeN).take ret ++
                    (writeLoop data (writeN + ret) outcomes).sent } := by
              simp [writeLoop, chosen, full]
            rw [unfolded]
            have unfinished : data.drop (writeN + ret) ≠ [] := by
              intro empty
              have length := congrArg List.length empty
              simp only [List.length_drop, List.length_nil] at length
              omega
            have later := wrote_count taken unfinished (ih (writeN + ret) (by omega))
            rwa [split] at later

theorem writeSocket_wrote (data : List UInt8) (outcomes : List WriteOutcome) :
    Wrote data outcomes (writeSocket data outcomes) :=
  writeLoop_wrote data 0 outcomes (Nat.zero_le _)

end TaskMonitor
