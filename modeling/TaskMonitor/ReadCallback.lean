import TaskMonitor.Reconnect
import Mathlib.Data.Stream.Init

/-! One call of `client_readio_cb` over an endless sequence of `readSocket` outcomes, of which it
makes as many reads as it needs. -/

namespace TaskMonitor

open CText Cjson

namespace TaskClient

theorem heartbeatReqCb_returned (s : TaskClient) (ret : Int) (rsp : Option RspData) :
    (s.heartbeatReqCb ret rsp).returned = s.returned := by
  rw [heartbeatReqCb.eq_def]
  split
  · split
    · rfl
    · rfl
  · rfl

theorem runCallbacks_returned (s : TaskClient) (outs : List (ClientOut LibCb)) :
    (s.runCallbacks outs).returned = s.returned := by
  induction outs generalizing s with
  | nil => rfl
  | cons o outs ih =>
      cases o with
      | called call => exact (ih _).trans (s.heartbeatReqCb_returned call.ret call.data)
      | accepted node => exact ih s
      | timerDestroyed timer => exact ih s
      | freed node => exact ih s

def Waits (result : ReadResult) : Prop := ∀ data, result ≠ .bytes data

theorem waits_iff {reads : List ReadResult} :
    (∀ result ∈ reads, Waits result) ↔ ¬ ∃ data, .bytes data ∈ reads := by
  constructor
  · intro waiting found
    rcases found with ⟨data, member⟩
    exact waiting _ member data rfl
  · intro no_bytes result member data same
    exact no_bytes ⟨data, same ▸ member⟩

section Returning

variable (codec : Codec) (accepted mallocOk : Bool) {client : Nat} {w : ClientWorld LibCb}

theorem clientReadioCb_returned_iff {s : TaskClient} (returned : s.returned = true)
    (reads : List ReadResult) :
    (clientReadioCb codec accepted mallocOk client w s reads).1.returned = true ↔
      ∃ data, .bytes data ∈ reads := by
  induction reads generalizing s with
  | nil => simp [clientReadioCb]
  | cons result reads ih =>
      cases result with
      | interrupted =>
          rw [clientReadioCb, ih returned]
          simp
      | failed =>
          have posted : s.sendEventDelay.returned = true := returned
          have later := ih posted
          simp only [clientReadioCb, fail, List.mem_cons, reduceCtorEq, false_or]
          exact later
      | bytes data =>
          have found : ∃ d, ReadResult.bytes d ∈ .bytes data :: reads :=
            ⟨data, List.mem_cons_self⟩
          apply iff_of_true _ found
          rw [clientReadioCb]
          by_cases empty : data = []
          · rw [if_pos empty]
            exact returned
          · rw [if_neg empty]
            have received : (s.recvData codec client w
                ⟨data.take globalBufLen, accepted, mallocOk⟩).2.1.returned = true :=
              (runCallbacks_returned _ _).trans returned
            dsimp only
            split
            · exact received
            · exact received

theorem failures_append {front : List ReadResult} (waiting : ∀ result ∈ front, Waits result)
    (back : List ReadResult) :
    failures codec accepted mallocOk client w (front ++ back) =
      front.count .failed + failures codec accepted mallocOk client w back := by
  induction front with
  | nil => simp
  | cons result front ih =>
      have later := ih fun r member => waiting r (List.mem_cons_of_mem result member)
      cases result with
      | interrupted =>
          rw [List.cons_append, failures, later, List.count_cons_of_ne (by decide)]
      | failed =>
          rw [List.cons_append, failures, later, List.count_cons_self]
          omega
      | bytes data => exact absurd rfl (waiting _ List.mem_cons_self data)

end Returning

theorem first_bytes {reads : Stream' ReadResult} {n : Nat}
    (found : ∃ data, .bytes data ∈ reads.take n) :
    ∃ k data, reads.get k = .bytes data ∧ ∀ result ∈ reads.take k, Waits result := by
  induction n with
  | zero =>
      rcases found with ⟨data, member⟩
      cases member
  | succ n ih =>
      by_cases earlier : ∃ data, .bytes data ∈ reads.take n
      · exact ih earlier
      · rcases found with ⟨data, member⟩
        rw [Stream'.take_succ', List.mem_append, List.mem_singleton] at member
        have last := member.resolve_left fun inside => earlier ⟨data, inside⟩
        exact ⟨n, data, last.symm, waits_iff.mpr earlier⟩

structure CallbackReturns (codec : Codec) (accepted mallocOk : Bool) (client : Nat)
    (w : ClientWorld LibCb) (s : TaskClient) (reads : Stream' ReadResult) : Prop where
  finite : ∃ n,
    (clientReadioCb codec accepted mallocOk client w s (reads.take n)).1.returned = true
  single : ∀ n,
    (clientReadioCb codec accepted mallocOk client w s (reads.take n)).1.pending ≤ s.pending + 1

/-- There is a first read with bytes or with the end of the file. The errors before it, with its
own failure if it is the end of the file or its bytes cannot be processed, are one at most. -/
def FailsAtMostOnce (codec : Codec) (accepted mallocOk : Bool) (client : Nat)
    (w : ClientWorld LibCb) (reads : Stream' ReadResult) : Prop :=
  ∃ k data, reads.get k = .bytes data ∧ (∀ result ∈ reads.take k, Waits result) ∧
    (reads.take k).count .failed +
      failures codec accepted mallocOk client w [.bytes data] ≤ 1

section Counting

variable (codec : Codec) (accepted mallocOk : Bool) (client : Nat) (w : ClientWorld LibCb)
  {reads : Stream' ReadResult} {k : Nat} {data : List UInt8}

theorem failures_take (first : reads.get k = .bytes data)
    (waiting : ∀ result ∈ reads.take k, Waits result) {n : Nat} (behind : k < n) :
    failures codec accepted mallocOk client w (reads.take n) =
      (reads.take k).count .failed + failures codec accepted mallocOk client w [.bytes data] := by
  have front : reads.take (k + 1) <+: reads.take n :=
    (Stream'.take_prefix (k + 1) n reads).mpr behind
  rcases front with ⟨back, split⟩
  rw [Stream'.take_succ', first, List.append_assoc] at split
  rw [← split, failures_append codec accepted mallocOk waiting]
  rfl

theorem failures_take_le (waiting : ∀ result ∈ reads.take k, Waits result) {n : Nat}
    (before : n ≤ k) :
    failures codec accepted mallocOk client w (reads.take n) ≤ (reads.take k).count .failed := by
  have front : reads.take n <+: reads.take k := (Stream'.take_prefix n k reads).mpr before
  have waiting' : ∀ result ∈ reads.take n, Waits result :=
    fun result member => waiting result (front.subset member)
  calc
    failures codec accepted mallocOk client w (reads.take n)
      = failures codec accepted mallocOk client w (reads.take n ++ []) := by rw [List.append_nil]
    _ = (reads.take n).count .failed := failures_append codec accepted mallocOk waiting' []
    _ ≤ (reads.take k).count .failed := front.sublist.count_le _

end Counting

end TaskClient

open TaskClient

/-- A read that keeps failing never ends the loop, and each failure posts another event: the
callback returns in order exactly where at most one failure is met on the way to bytes or to the
end of the file. -/
theorem callback_returns_iff (codec : Codec) (accepted mallocOk : Bool) {client : Nat}
    {w : ClientWorld LibCb} {s : TaskClient} (current : s.s_msg_client = some (client, w))
    (returned : s.returned = true) (reads : Stream' ReadResult) :
    CallbackReturns codec accepted mallocOk client w s reads ↔
      FailsAtMostOnce codec accepted mallocOk client w reads := by
  have posts := fun n =>
    (clientReadioCb_posts codec accepted mallocOk current (reads.take n)).1
  constructor
  · intro returns
    rcases returns.finite with ⟨n, ended⟩
    rcases first_bytes ((clientReadioCb_returned_iff codec accepted mallocOk returned _).mp ended)
      with ⟨k, data, first, waiting⟩
    have once := returns.single (k + 1)
    rw [posts, failures_take codec accepted mallocOk client w first waiting (Nat.lt_succ_self k)]
      at once
    exact ⟨k, data, first, waiting, by omega⟩
  · intro once
    rcases once with ⟨k, data, first, waiting, single⟩
    constructor
    · refine ⟨k + 1, (clientReadioCb_returned_iff codec accepted mallocOk returned _).mpr ?_⟩
      rw [Stream'.take_succ', first]
      exact ⟨data, List.mem_append_right _ (List.mem_singleton_self _)⟩
    · intro n
      rw [posts]
      by_cases before : n ≤ k
      · have few := failures_take_le codec accepted mallocOk client w waiting before
        omega
      · rw [failures_take codec accepted mallocOk client w first waiting (by omega)]
        omega

def attachedClient : TaskClient :=
  { startedClient with s_msg_client := some (0, MsgClient.start 5 0) }

def closedByServer : Stream' ReadResult := .cons .interrupted (.const (.bytes []))

theorem callback_returns_closed :
    CallbackReturns textCodec true true 0 (MsgClient.start 5 0) attachedClient closedByServer := by
  have once : FailsAtMostOnce textCodec true true 0 (MsgClient.start 5 0) closedByServer := by
    refine ⟨1, [], rfl, ?_, by decide⟩
    intro result member
    obtain rfl : result = .interrupted := List.mem_singleton.mp member
    intro data same
    cases same
  exact (callback_returns_iff textCodec true true rfl rfl closedByServer).mpr once

/-- A connection that is reset for good: the callback never returns. -/
theorem persistent_error_spins :
    (∀ n, ∃ m, n ≤ m ∧ (Stream'.const ReadResult.failed).get m ≠ .interrupted) ∧
      ¬ CallbackReturns textCodec true true 0 (MsgClient.start 5 0) attachedClient
        (Stream'.const .failed) := by
  constructor
  · intro n
    refine ⟨n, Nat.le_refl n, ?_⟩
    rw [Stream'.get_const]
    decide
  · intro returns
    rcases returns.finite with ⟨n, ended⟩
    rcases first_bytes ((clientReadioCb_returned_iff textCodec true true rfl _).mp ended)
      with ⟨k, data, first, _⟩
    rw [Stream'.get_const] at first
    cases first

end TaskMonitor
