import TaskMonitor.FrameStream
import TaskMonitor.PendingRequests

/-! A client whose ring buffer holds `socketBufSize` bytes and refuses what does not fit: the
frames that it can take out of it. -/

namespace TaskMonitor

open Cjson

inductive FedOut (κ : Type*) where
  | taken (package : Package)
  | called (call : Call κ)

namespace MsgClient

variable {κ : Type*}

def feeding (codec : Codec) : StepMachine (ClientWorld κ) (List UInt8) (FedOut κ) where
  step w data :=
    let fits := decide (w.client.mRb.getDataSize + data.length ≤ socketBufSize)
    let r := recvData codec w ⟨data, fits, true⟩ []
    let after := r.parsed.getD (w, [])
    ({ after.1 with client := { after.1.client with mRb := r.rb } },
      r.package.toList.map .taken ++ (calls after.2).map .called)

def withRing (w : ClientWorld κ) (b : List UInt8) : ClientWorld κ :=
  { w with client := { w.client with mRb := ⟨b⟩ } }

theorem feeding_refused (codec : Codec) {w : ClientWorld κ} {data : List UInt8}
    (full : socketBufSize < w.client.mRb.bytes.length + data.length) :
    (feeding codec).step w data = (w, []) := by
  have refused : decide (w.client.mRb.getDataSize + data.length ≤ socketBufSize) = false :=
    decide_eq_false (Nat.not_le.mpr full)
  have received : recvData codec w ⟨data, false, true⟩ [] = ⟨-1, w.client.mRb, none, none⟩ := rfl
  simp only [feeding, refused, received]
  rfl

theorem recvData_fitting (codec : Codec) {w : ClientWorld κ} {data : List UInt8}
    (nonempty : data ≠ []) :
    recvData codec w ⟨data, true, true⟩ [] =
      procData (parsePackage codec [] w) ⟨w.client.mRb.bytes ++ data⟩ true := by
  have wrote : data.length ≠ 0 := fun zero => nonempty (List.length_eq_zero_iff.mp zero)
  rw [recvData, TaskMonitor.recvData]
  simp only [RingBuf.writeData, if_true, if_neg wrote]

theorem feeding_incomplete (codec : Codec) {w : ClientWorld κ} {data : List UInt8}
    (fits : w.client.mRb.bytes.length + data.length ≤ socketBufSize) (nonempty : data ≠ [])
    (incomplete : getAvailablePackage ⟨w.client.mRb.bytes ++ data⟩ true =
      .no 0 ⟨w.client.mRb.bytes ++ data⟩) :
    (feeding codec).step w data = (withRing w (w.client.mRb.bytes ++ data), []) := by
  have taken : decide (w.client.mRb.getDataSize + data.length ≤ socketBufSize) = true :=
    decide_eq_true fits
  simp only [feeding, taken, recvData_fitting codec nonempty, procData, incomplete]
  rfl

theorem feeding_complete (codec : Codec) {w : ClientWorld κ} {data : List UInt8}
    (fits : w.client.mRb.bytes.length + data.length ≤ socketBufSize) (nonempty : data ≠ [])
    {package : Package} (complete : getAvailablePackage ⟨w.client.mRb.bytes ++ data⟩ true =
      .yes package ⟨[]⟩) :
    (feeding codec).step w data =
      (withRing (parsePackage codec [] w package).2.1 [],
        .taken package :: (calls (parsePackage codec [] w package).2.2).map .called) := by
  have taken : decide (w.client.mRb.getDataSize + data.length ≤ socketBufSize) = true :=
    decide_eq_true fits
  simp only [feeding, taken, recvData_fitting codec nonempty, procData, complete]
  rfl

end MsgClient

structure Buffering (f : Frame) (b rest : List UInt8) : Prop where
  header : 8 ≤ b.length → headerLen b = f.payload.length
  short : b.length < 8 → b ++ rest = f.encode

theorem headerLen_append {b : List UInt8} (whole : 8 ≤ b.length) (more : List UInt8) :
    headerLen (b ++ more) = headerLen b := by
  rw [headerLen, headerLen, List.take_append_of_le_length whole]

theorem Buffering.of_front {f : Frame} {b rest : List UInt8} (front : b ++ rest = f.encode) :
    Buffering f b rest := by
  constructor
  · intro whole
    have lens := (header_encode f []).2
    rw [List.append_nil, ← front, headerLen_append whole] at lens
    exact lens
  · exact fun _ => front

theorem Buffering.extend {f : Frame} {b piece rest : List UInt8}
    (buffering : Buffering f b (piece ++ rest)) : Buffering f (b ++ piece) rest := by
  by_cases whole : 8 ≤ b.length
  · constructor
    · intro _
      rw [headerLen_append whole]
      exact buffering.header whole
    · intro tooShort
      rw [List.length_append] at tooShort
      omega
  · apply Buffering.of_front
    rw [List.append_assoc]
    exact buffering.short (by omega)

theorem Buffering.incomplete {f : Frame} {b rest : List UInt8} (buffering : Buffering f b rest)
    (missing : b.length < f.encode.length) (mallocOk : Bool) :
    getAvailablePackage ⟨b⟩ mallocOk = .no 0 ⟨b⟩ := by
  have positive : 0 < f.payload.length := List.length_pos_iff.mpr f.nonempty
  have fits : f.payload.length + 8 < 2 ^ 32 := f.fits
  rw [f.encode_length] at missing
  apply getAvailablePackage_incomplete
  · intro long
    rw [buffering.header (by omega)]
    exact ⟨positive, fits⟩
  · rw [splitFrame]
    apply dif_neg
    intro complete
    by_cases whole : 8 ≤ b.length
    · rw [buffering.header whole] at complete
      omega
    · omega

structure Segments (f : Frame) (pieces : List (List UInt8)) : Prop where
  whole : pieces.flatten = f.encode
  reads : ∀ piece ∈ pieces, piece ≠ [] ∧ piece.length ≤ 1024

theorem segments_bytes (f : Frame) : Segments f (f.encode.map fun byte => [byte]) := by
  constructor
  · generalize f.encode = bytes
    induction bytes with
    | nil => rfl
    | cons byte bytes ih => simp [ih]
  · intro piece member
    rcases List.mem_map.mp member with ⟨byte, _, rfl⟩
    simp

namespace MsgClient

variable {κ : Type*}

theorem feeding_oversized (codec : Codec) {f : Frame} (oversized : socketBufSize < f.encode.length)
    {w : ClientWorld κ} {pieces : List (List UInt8)}
    (buffering : Buffering f w.client.mRb.bytes pieces.flatten)
    (bounded : w.client.mRb.bytes.length ≤ socketBufSize)
    (reads : ∀ piece ∈ pieces, piece ≠ [] ∧ piece.length ≤ 1024) :
    (feeding codec).trace w pieces = [] := by
  induction pieces generalizing w with
  | nil => rfl
  | cons piece pieces ih =>
      rcases reads piece List.mem_cons_self with ⟨nonempty, small⟩
      have later : ∀ piece ∈ pieces, piece ≠ [] ∧ piece.length ≤ 1024 :=
        fun piece member => reads piece (List.mem_cons_of_mem _ member)
      rw [List.flatten_cons] at buffering
      rw [StepMachine.trace_cons, StepMachine.emit, StepMachine.next]
      by_cases fits : w.client.mRb.bytes.length + piece.length ≤ socketBufSize
      · have size : (w.client.mRb.bytes ++ piece).length ≤ socketBufSize := by
          rw [List.length_append]
          exact fits
        have incomplete := buffering.extend.incomplete (by omega) true
        rw [feeding_incomplete codec fits nonempty incomplete]
        exact ih buffering.extend size later
      · have whole : 8 ≤ w.client.mRb.bytes.length := by
          have capacity : socketBufSize = 10240 := rfl
          omega
        rw [feeding_refused codec (by omega)]
        exact ih ⟨buffering.header, fun tooShort => absurd whole (Nat.not_le.mpr tooShort)⟩ bounded
          later

theorem feeding_fitting (codec : Codec) {f : Frame} (fits : f.encode.length ≤ socketBufSize)
    {w : ClientWorld κ} {pieces : List (List UInt8)}
    (front : w.client.mRb.bytes ++ pieces.flatten = f.encode)
    (missing : w.client.mRb.bytes.length < f.encode.length)
    (reads : ∀ piece ∈ pieces, piece ≠ [] ∧ piece.length ≤ 1024) :
    ∃ b, (feeding codec).trace w pieces = .taken f.package ::
      (calls (parsePackage codec [] (withRing w b) f.package).2.2).map .called := by
  induction pieces generalizing w with
  | nil =>
      rw [List.flatten_nil, List.append_nil] at front
      rw [front] at missing
      omega
  | cons piece pieces ih =>
      rcases reads piece List.mem_cons_self with ⟨nonempty, _⟩
      have later : ∀ piece ∈ pieces, piece ≠ [] ∧ piece.length ≤ 1024 :=
        fun piece member => reads piece (List.mem_cons_of_mem _ member)
      rw [List.flatten_cons, ← List.append_assoc] at front
      have lengths := congrArg List.length front
      rw [List.length_append, List.length_append] at lengths
      rw [StepMachine.trace_cons, StepMachine.emit, StepMachine.next]
      cases pieces with
      | nil =>
          rw [List.flatten_nil, List.append_nil] at front
          have complete := getAvailablePackage_encode f [] true
          rw [List.append_nil, ← front] at complete
          rw [feeding_complete codec (by omega) nonempty complete]
          exact ⟨w.client.mRb.bytes, List.append_nil _⟩
      | cons next pieces =>
          have more : 0 < (next :: pieces).flatten.length := by
            have filled := List.length_pos_iff.mpr (later next List.mem_cons_self).1
            rw [List.flatten_cons, List.length_append]
            omega
          have missing' : (w.client.mRb.bytes ++ piece).length < f.encode.length := by
            rw [List.length_append]
            omega
          have incomplete := (Buffering.of_front front).incomplete missing' true
          rw [feeding_incomplete codec (by omega) nonempty incomplete]
          exact ih front missing' later

section Empty

variable (codec : Codec) {w : ClientWorld κ} (empty : w.client.mRb = .create) {f : Frame}
  {pieces : List (List UInt8)} (segments : Segments f pieces)

include empty segments

theorem trace_oversized (oversized : socketBufSize < f.encode.length) :
    (feeding codec).trace w pieces = [] := by
  have front : w.client.mRb.bytes ++ pieces.flatten = f.encode := by
    rw [empty]
    exact segments.whole
  have nothing : w.client.mRb.bytes.length = 0 := by
    rw [empty]
    rfl
  exact feeding_oversized codec oversized (.of_front front) (by omega) segments.reads

theorem trace_fitting (fits : f.encode.length ≤ socketBufSize) :
    ∃ b, (feeding codec).trace w pieces = .taken f.package ::
      (calls (parsePackage codec [] (withRing w b) f.package).2.2).map .called := by
  have front : w.client.mRb.bytes ++ pieces.flatten = f.encode := by
    rw [empty]
    exact segments.whole
  have missing : w.client.mRb.bytes.length < f.encode.length := by
    rw [empty, f.encode_length]
    exact Nat.succ_pos _
  exact feeding_fitting codec fits front missing segments.reads

theorem feeding_silent
    (silent : ∀ b, calls (parsePackage codec [] (withRing w b) f.package).2.2 = [])
    (call : Call κ) : .called call ∉ (feeding codec).trace w pieces := by
  by_cases fits : f.encode.length ≤ socketBufSize
  · rcases trace_fitting codec empty segments fits with ⟨b, trace⟩
    rw [trace, silent]
    simp
  · rw [trace_oversized codec empty segments (Nat.not_le.mp fits)]
    exact List.not_mem_nil

end Empty

/-- However the frame is cut into reads, it is taken out. -/
def Extracted (codec : Codec) (w : ClientWorld κ) (f : Frame) : Prop :=
  ∀ pieces, Segments f pieces → .taken f.package ∈ (feeding codec).trace w pieces

theorem extracted_iff (codec : Codec) {w : ClientWorld κ} (empty : w.client.mRb = .create)
    (f : Frame) : Extracted codec w f ↔ f.encode.length ≤ socketBufSize := by
  constructor
  · intro extracted
    by_contra oversized
    have segments := segments_bytes f
    have taken := extracted _ segments
    rw [trace_oversized codec empty segments (Nat.not_le.mp oversized)] at taken
    cases taken
  · intro fits pieces segments
    rcases trace_fitting codec empty segments fits with ⟨b, trace⟩
    rw [trace]
    exact List.mem_cons_self

end MsgClient

end TaskMonitor
