import TaskMonitor.MsgClient

/-! What runs of `sendRequest` calls leave on the wire when their writes fail. -/

namespace TaskMonitor

/-- After a hard error no write accepts a byte. -/
def QuietAfterError : List WriteOutcome → Prop
  | [] => True
  | .error :: outcomes => ∀ o ∈ outcomes, o.Quiet
  | _ :: outcomes => QuietAfterError outcomes

/-- A hard error comes after a write that accepted bytes. -/
def FailsPartway (outcomes : List WriteOutcome) : Prop :=
  ∃ used rest, outcomes = used ++ .error :: rest ∧ ∃ o ∈ used, ¬ o.Quiet

theorem quietAfterError_append {used rest : List WriteOutcome} (clean : .error ∉ used)
    (quiet : QuietAfterError (used ++ rest)) : QuietAfterError rest := by
  induction used with
  | nil => exact quiet
  | cons o used ih =>
      simp only [List.mem_cons, not_or] at clean
      cases o with
      | again => exact ih clean.2 quiet
      | error => exact absurd rfl clean.1
      | count n => exact ih clean.2 quiet

theorem writeSocket_quiet (data : List UInt8) {outcomes : List WriteOutcome}
    (quiet : ∀ o ∈ outcomes, o.Quiet) :
    (writeSocket data outcomes).sent = [] ∧ ∀ o ∈ (writeSocket data outcomes).rest, o.Quiet := by
  have silent {sent : List UInt8} {used : List WriteOutcome} (some : used ⊆ outcomes)
      (accepted : Accepted sent used) : sent = [] := by
    by_contra wet
    rcases accepted wet with ⟨o, member, loud⟩
    exact loud (quiet o (some member))
  have wrote := writeSocket_wrote data outcomes
  generalize writeSocket data outcomes = r at wrote
  cases wrote with
  | done used rest split _ accepted =>
      subst split
      exact ⟨silent (by simp) accepted, fun o member => quiet o (List.mem_append_right used member)⟩
  | failed used rest sent split _ _ _ accepted =>
      subst split
      exact ⟨silent (by simp) accepted, fun o member => quiet o (by simp [member])⟩
  | waiting sent _ _ _ accepted => exact ⟨silent (List.Subset.refl _) accepted, by simp⟩

theorem writeParts_quiet {parts : List (List UInt8)} {outcomes : List WriteOutcome}
    (quiet : ∀ o ∈ outcomes, o.Quiet) : (writeParts parts outcomes).sent = [] := by
  induction parts generalizing outcomes with
  | nil => rfl
  | cons part parts ih =>
      rcases writeSocket_quiet part quiet with ⟨sent, rest⟩
      rw [writeParts, sent, ih rest]
      rfl

/-- What writes of several parts leave: all of them, or a prefix. A call that returned with
a prefix met a hard error, after a write with bytes if there are any. -/
inductive Sent (data : List UInt8) (outcomes : List WriteOutcome) (r : WriteResult) : Prop where
  | whole (sent : r.sent = data) (used rest : List WriteOutcome) (split : outcomes = used ++ rest)
      (accepted : Accepted data used)
  | cut (part : r.sent <+: data)
      (failed : r.ret ≠ none → ∃ used rest, outcomes = used ++ .error :: rest ∧
        Accepted r.sent used)

theorem writeParts_sent (parts : List (List UInt8)) {outcomes : List WriteOutcome}
    (quiet : QuietAfterError outcomes) :
    Sent parts.flatten outcomes (writeParts parts outcomes) := by
  induction parts generalizing outcomes with
  | nil => exact .whole rfl [] outcomes rfl (accepted_nil [])
  | cons part parts ih =>
      have wrote := writeSocket_wrote part outcomes
      rw [writeParts, List.flatten_cons]
      generalize writeSocket part outcomes = first at wrote
      cases wrote with
      | done used rest split clean accepted =>
          rw [split] at quiet
          have later := ih (quietAfterError_append clean quiet)
          cases later with
          | whole sent more rest' split' wet =>
              refine .whole (by rw [sent]) (used ++ more) rest' ?_ (accepted.append wet)
              rw [split, split', List.append_assoc]
          | cut pre failed =>
              refine .cut ((List.prefix_append_right_inj part).mpr pre) ?_
              intro returned
              obtain ⟨more, rest', split', wet⟩ := failed (by
                intro waits
                simp [waits] at returned)
              refine ⟨used ++ more, rest', ?_, accepted.append wet⟩
              rw [split, split', List.append_assoc]
      | failed used rest sent split clean pre _ accepted =>
          have silent : (writeParts parts rest).sent = [] := by
            apply writeParts_quiet
            rw [split] at quiet
            exact quietAfterError_append clean quiet
          refine .cut ?_ fun _ => ⟨used, rest, split, ?_⟩
          · simpa only [silent, List.append_nil] using pre.trans (List.prefix_append part _)
          · simpa only [silent, List.append_nil] using accepted
      | waiting sent clean pre _ _ =>
          have silent : (writeParts parts []).sent = [] := writeParts_quiet (by simp)
          refine .cut ?_ fun returned => absurd rfl returned
          simpa only [silent, List.append_nil] using pre.trans (List.prefix_append part _)

namespace MsgClient

variable {κ : Type*}

structure Write where
  frame : List UInt8
  sent : List UInt8
  deriving DecidableEq

def requestBytes (w : ClientWorld κ) (a : SendArgs κ) : List UInt8 :=
  htonl (getNextReqId w).1 ++ htonl a.len ++ a.data.take a.len.toNat

/-- Successive `sendRequest` calls, whatever they return. A call whose write still waits is
the last one. -/
def sending : StepMachine (ClientWorld κ × Bool) (SendArgs κ) Write where
  step s a :=
    if s.2 then (s, [])
    else
      let r := sendRequest s.1 a
      ((r.world, r.ret.isNone), [⟨requestBytes s.1 a, r.sent⟩])

def wire (writes : List Write) : List UInt8 := (writes.map Write.sent).flatten

/-- Complete frames, then at most a prefix of one, and after that nothing. -/
def FramesThenCut : List Write → Prop
  | [] => True
  | write :: later =>
      ((write.sent = write.frame ∨ write.sent = []) ∧ FramesThenCut later) ∨
        (write.sent <+: write.frame ∧ ∀ other ∈ later, other.sent = [])

/-- After a hard error no write of the same request accepts a byte, and after a request that
failed partway none of any later request. -/
def QuietRun : List (SendArgs κ) → Prop
  | [] => True
  | a :: later =>
      QuietAfterError a.outcomes ∧
        (FailsPartway a.outcomes → ∀ b ∈ later, ∀ o ∈ b.outcomes, o.Quiet) ∧ QuietRun later

theorem sendRequest_written (w : ClientWorld κ) (a : SendArgs κ) :
    (sendRequest w a).sent = (writeFrame (getNextReqId w).1 a.len a.data a.outcomes).sent ∧
      ((sendRequest w a).ret = none ↔
        (writeFrame (getNextReqId w).1 a.len a.data a.outcomes).ret = none) := by
  rw [sendRequest]
  dsimp only
  split
  · exact ⟨rfl, Iff.rfl⟩
  · split
    · rename_i waits
      exact ⟨rfl, by simp [waits]⟩
    · rename_i ret returned
      rw [returned]
      split
      · simp
      · split <;> simp

theorem emit_sending (s : ClientWorld κ × Bool) (a : SendArgs κ) :
    sending.emit s a = if s.2 then [] else [⟨requestBytes s.1 a, (sendRequest s.1 a).sent⟩] := by
  rw [StepMachine.emit, sending]
  dsimp only
  split <;> rfl

theorem next_sending (s : ClientWorld κ × Bool) (a : SendArgs κ) :
    sending.next s a =
      if s.2 then s else ((sendRequest s.1 a).world, (sendRequest s.1 a).ret.isNone) := by
  rw [StepMachine.next, sending]
  dsimp only
  split <;> rfl

theorem trace_sending_busy (w : ClientWorld κ) (as : List (SendArgs κ)) :
    sending.trace (w, true) as = [] := by
  induction as with
  | nil => rfl
  | cons a as ih =>
      rw [StepMachine.trace_cons, emit_sending, next_sending, if_pos rfl, if_pos rfl, ih]
      rfl

theorem trace_sending_quiet {as : List (SendArgs κ)} (quiet : ∀ a ∈ as, ∀ o ∈ a.outcomes, o.Quiet)
    (s : ClientWorld κ × Bool) : ∀ write ∈ sending.trace s as, write.sent = [] := by
  refine sending.trace_forall (fun _ => True) (fun _ _ _ _ => trivial) ?_ trivial
    (sending.allSteps_of_events quiet s)
  intro s a _ silent write member
  rw [emit_sending] at member
  split at member
  · cases member
  · obtain rfl := List.mem_singleton.mp member
    rw [(sendRequest_written s.1 a).1, writeFrame_eq]
    exact writeParts_quiet silent

theorem sendRequest_sent (w : ClientWorld κ) {a : SendArgs κ} (quiet : QuietAfterError a.outcomes) :
    Sent (requestBytes w a) a.outcomes
      (writeFrame (getNextReqId w).1 a.len a.data a.outcomes) := by
  have parts : requestBytes w a =
      [htonl (getNextReqId w).1, htonl a.len, a.data.take a.len.toNat].flatten := by
    simp [requestBytes]
  rw [parts, writeFrame_eq]
  exact writeParts_sent _ quiet

theorem framesThenCut_trace {as : List (SendArgs κ)} (quiet : QuietRun as)
    (s : ClientWorld κ × Bool) : FramesThenCut (sending.trace s as) := by
  induction as generalizing s with
  | nil => trivial
  | cons a later ih =>
      rcases quiet with ⟨orderly, silent, rest⟩
      rcases s with ⟨w, busy⟩
      cases busy with
      | true =>
          rw [trace_sending_busy]
          trivial
      | false =>
          rcases sendRequest_written w a with ⟨sent, returned⟩
          have left := sendRequest_sent w orderly
          generalize writeFrame (getNextReqId w).1 a.len a.data a.outcomes = r at sent returned left
          rw [StepMachine.trace_cons, emit_sending, next_sending]
          simp only [Bool.false_eq_true, if_false, List.cons_append, List.nil_append, sent]
          cases left with
          | whole complete used unused split accepted => exact .inl ⟨.inl complete, ih rest _⟩
          | cut part failed =>
              by_cases waits : r.ret = none
              · rw [returned.mpr waits]
                refine .inr ⟨part, ?_⟩
                rw [Option.isNone_none, trace_sending_busy]
                simp
              · rcases failed waits with ⟨used, unused, split, wet⟩
                by_cases dry : r.sent = []
                · exact .inl ⟨.inr dry, ih rest _⟩
                · have partway : FailsPartway a.outcomes := ⟨used, unused, split, wet dry⟩
                  exact .inr ⟨part, trace_sending_quiet (silent partway) _⟩

/-- On the wire stand frames of the run, in order, and at most a prefix of one more. -/
def FramedWire (writes : List Write) : Prop :=
  ∃ (whole : List (List UInt8)) (part : List UInt8), wire writes = whole.flatten ++ part ∧
    whole.Sublist (writes.map Write.frame) ∧ (part = [] ∨ ∃ write ∈ writes, part <+: write.frame)

theorem framedWire_of_framesThenCut {writes : List Write} (cut : FramesThenCut writes) :
    FramedWire writes := by
  induction writes with
  | nil => exact ⟨[], [], rfl, .slnil, .inl rfl⟩
  | cons write later ih =>
      have unfolded : wire (write :: later) = write.sent ++ wire later := by simp [wire]
      rw [FramedWire, unfolded]
      rcases cut with ⟨front, rest⟩ | ⟨pre, silent⟩
      · rcases ih rest with ⟨whole, part, same, sub, last⟩
        have last' : part = [] ∨ ∃ other ∈ write :: later, part <+: other.frame := by
          rcases last with empty | ⟨other, member, pre⟩
          · exact .inl empty
          · exact .inr ⟨other, List.mem_cons_of_mem write member, pre⟩
        rcases front with complete | dry
        · refine ⟨write.frame :: whole, part, ?_, sub.cons_cons _, last'⟩
          rw [complete, same, List.flatten_cons, List.append_assoc]
        · exact ⟨whole, part, by rw [dry, same]; rfl, sub.cons _, last'⟩
      · refine ⟨[], write.sent, ?_, List.nil_sublist _, .inr ⟨write, List.mem_cons_self, pre⟩⟩
        have empty : wire later = [] := by
          simpa [wire] using silent
        rw [empty, List.append_nil]
        rfl

end MsgClient

open MsgClient

variable {κ : Type*}

/-- In a run that is quiet after its errors the wire carries complete frames of its requests
and at most a prefix of one more, with nothing behind it. -/
theorem framing_survives (w : ClientWorld κ) {as : List (SendArgs κ)} (quiet : QuietRun as) :
    FramesThenCut (sending.trace (w, false) as) ∧ FramedWire (sending.trace (w, false) as) := by
  have cut := framesThenCut_trace quiet (w, false)
  exact ⟨cut, framedWire_of_framesThenCut cut⟩

def emptyRequest (outcomes : List WriteOutcome) : SendArgs Unit :=
  ⟨.queryAll, [123, 125, 0], 3, none, 3, 0, true, true, outcomes⟩

def orderlyRun : List (SendArgs Unit) :=
  [emptyRequest [.count 4, .count 1, .again, .count 3, .count 3],
    emptyRequest [.count 2, .error, .error, .error], emptyRequest [.error, .error, .error]]

theorem framing_survives_orderly :
    FramesThenCut (sending.trace (start 5 0, false) orderlyRun) ∧
      FramedWire (sending.trace (start 5 0, false) orderlyRun) := by
  refine framing_survives (start 5 0) ⟨trivial, ?_, ?_, ?_, ?_, ?_, trivial⟩
  · intro failed
    rcases failed with ⟨used, rest, split, _⟩
    have failed : WriteOutcome.error ∈ used ++ .error :: rest := by simp
    rw [← split] at failed
    simp [emptyRequest] at failed
  all_goals simp [emptyRequest, QuietAfterError, WriteOutcome.Quiet]

/-- The request id cannot be written, the length and the data can: the peer is sent a length
where it expects an id. -/
theorem framing_lost_after_error :
    ¬ ∀ as : List (SendArgs Unit), FramesThenCut (sending.trace (start 5 0, false) as) := by
  intro claimed
  rcases claimed [emptyRequest [.error, .count 4, .count 3]] with ⟨whole | dry, _⟩ | ⟨cut, _⟩
  · exact absurd whole (by decide)
  · exact absurd dry (by decide)
  · exact absurd cut (by decide)

end TaskMonitor
