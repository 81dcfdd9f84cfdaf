import TaskMonitor.MsgServer
import TaskMonitor.MsgClient
import TaskMonitor.Library.CjsonText

/-! Frames on a segmented stream: what successive `recvData` calls take out of it.

On buffers that are pieces of a stream of frames, `getAvailablePackage` is the splitter of
`frameCode`, so both receiving ends run in lockstep with the abstract receiver. -/

namespace TaskMonitor

open Cjson

/-- The header, once it is there, announces a payload and a sum that does not wrap. -/
def Sane (b : List UInt8) : Prop :=
  8 < b.length → 0 < headerLen b ∧ headerLen b + 8 < 2 ^ 32

theorem sane_of_stream {b : List UInt8} {fs : List Frame} (pre : b <+: frameCode.encodeAll fs) :
    Sane b := by
  intro long
  cases fs with
  | nil =>
      rw [SelfDelimiting.encodeAll_nil, List.prefix_nil] at pre
      rw [pre, List.length_nil] at long
      omega
  | cons f later =>
      rcases pre with ⟨q, whole⟩
      rw [SelfDelimiting.encodeAll_cons] at whole
      have head : b.take 8 = (f.encode ++ frameCode.encodeAll later).take 8 := by
        rw [show f.encode ++ frameCode.encodeAll later = b ++ q from whole.symm]
        exact (List.take_append_of_le_length (by omega)).symm
      have lens := (header_encode f (frameCode.encodeAll later)).2
      rw [headerLen, ← head] at lens
      rw [headerLen, lens]
      exact ⟨List.length_pos_iff.mpr f.nonempty, f.fits⟩

theorem getAvailablePackage_encode (f : Frame) (rest : List UInt8) (mallocOk : Bool) :
    getAvailablePackage ⟨f.encode ++ rest⟩ mallocOk =
      if mallocOk then .yes f.package ⟨rest⟩ else .no 0 ⟨f.encode ++ rest⟩ := by
  have eight : dataHeadLen.toNat = 8 := rfl
  have positive : 0 < f.payload.length := List.length_pos_iff.mpr f.nonempty
  have enough := encode_append_length f rest
  have idWord : ntohl (((f.encode ++ rest).take 8).take 4) = f.reqId := by
    rw [List.take_take]
    exact (header_encode f rest).1
  have word : ntohl (((f.encode ++ rest).take 8).drop 4) = f.len :=
    BigEndian.decode32_encode32 f.len
  have total : (f.len + dataHeadLen).toNat = f.payload.length + 8 := by
    rw [UInt32.toNat_add, eight, f.len_toNat]
    exact Nat.mod_eq_of_lt f.fits
  rcases cut_encode f rest with ⟨block, after⟩
  rw [getAvailablePackage]
  simp only [RingBuf.getDataSize, RingBuf.readDataOnly, RingBuf.readData, eight, word, idWord,
    total, block, after, f.encode_length]
  rw [if_neg (by omega), if_neg (by omega)]
  cases mallocOk <;> simp [Frame.package]

theorem getAvailablePackage_incomplete {b : List UInt8} (sane : Sane b)
    (missed : splitFrame b = none) (mallocOk : Bool) :
    getAvailablePackage ⟨b⟩ mallocOk = .no 0 ⟨b⟩ := by
  have eight : dataHeadLen.toNat = 8 := rfl
  by_cases short : b.length ≤ 8
  · simp [getAvailablePackage, RingBuf.getDataSize, eight, short]
  · rcases sane (by omega) with ⟨positive, fits⟩
    have total : (ntohl ((b.take 8).drop 4) + dataHeadLen).toNat = headerLen b + 8 := by
      rw [UInt32.toNat_add, eight]
      exact Nat.mod_eq_of_lt fits
    have incomplete : b.length < headerLen b + 8 := by
      rw [splitFrame] at missed
      split at missed
      · cases missed
      · omega
    rw [getAvailablePackage]
    simp only [RingBuf.getDataSize, RingBuf.readDataOnly, eight, total]
    rw [if_neg short, if_pos incomplete]

theorem getAvailablePackage_eq {b : List UInt8} (sane : Sane b) (mallocOk : Bool) :
    getAvailablePackage ⟨b⟩ mallocOk =
      match mallocOk, splitFrame b with
      | true, some (f, rest) => .yes f.package ⟨rest⟩
      | _, _ => .no 0 ⟨b⟩ := by
  cases found : splitFrame b with
  | none =>
      rw [getAvailablePackage_incomplete sane found]
      cases mallocOk <;> rfl
  | some taken =>
      rcases taken with ⟨f, rest⟩
      have whole := (splitFrame_eq_some_iff b f rest).mp found
      rw [whole, getAvailablePackage_encode]
      cases mallocOk <;> rfl

def RecvCall.arrival (call : RecvCall) : SelfDelimiting.Arrival UInt8 :=
  ⟨if call.accepted then call.data else [],
    call.accepted && !call.data.isEmpty && call.mallocOk⟩

def received (calls : List RecvCall) : List UInt8 :=
  SelfDelimiting.arrived (calls.map RecvCall.arrival)

def SaneArrival (b : List UInt8) (a : SelfDelimiting.Arrival UInt8) : Prop := Sane (b ++ a.piece)

theorem recvData_refines {ρ : Type*} (parse : Package → Int × ρ) (rb : RingBuf) (call : RecvCall)
    (sane : SaneArrival rb.bytes call.arrival) :
    (recvData parse rb call).rb.bytes = frameCode.receiver.next rb.bytes call.arrival ∧
      (recvData parse rb call).package.toList =
        (frameCode.receiver.emit rb.bytes call.arrival).map Frame.package := by
  rcases call with ⟨data, accepted, mallocOk⟩
  cases accepted with
  | false =>
      simp [recvData, RingBuf.writeData, RecvCall.arrival, StepMachine.next, StepMachine.emit,
        SelfDelimiting.receiver]
  | true =>
      by_cases empty : data = []
      · subst empty
        simp [recvData, RingBuf.writeData, RecvCall.arrival, StepMachine.next, StepMachine.emit,
          SelfDelimiting.receiver]
      · have filled : data.isEmpty = false := List.isEmpty_eq_false_iff.mpr empty
        have nonzero : data.length ≠ 0 := fun zero => empty (List.length_eq_zero_iff.mp zero)
        have sane : Sane (rb.bytes ++ data) := sane
        have extracted := getAvailablePackage_eq sane mallocOk
        simp only [recvData, RingBuf.writeData, procData, if_true, if_neg nonzero, extracted]
        simp only [RecvCall.arrival, StepMachine.next, StepMachine.emit, SelfDelimiting.receiver,
          SelfDelimiting.takeOne, filled, Bool.not_false, Bool.true_and, if_true]
        have splitter : frameCode.split = splitFrame := rfl
        rw [splitter]
        cases mallocOk with
        | false => simp
        | true =>
            cases splitFrame (rb.bytes ++ data) with
            | none => simp
            | some taken => simp

namespace MsgServer

variable {κ υ σ : Type*}

def receiving (codec : Codec) (call : CallbackSem κ υ σ) :
    StepMachine (MsgServer κ υ × σ) RecvEnv Package where
  step s env :=
    let r := recvData codec call env s.1 s.2
    (({ s.1 with mRb := r.rb }, (r.parsed.map (·.world)).getD s.2), r.package.toList)

theorem receiving_lockstep (codec : Codec) (call : CallbackSem κ υ σ) :
    (receiving codec call).Lockstep frameCode.receiver (fun s => s.1.mRb.bytes)
      (fun env => env.call.arrival) Frame.package SaneArrival where
  next s env sane :=
    (recvData_refines (parsePackage codec call env s.1 s.2) s.1.mRb env.call sane).1
  emit s env sane :=
    (recvData_refines (parsePackage codec call env s.1 s.2) s.1.mRb env.call sane).2

end MsgServer

namespace MsgClient

variable {κ : Type*}

def receiving (codec : Codec) :
    StepMachine (ClientWorld κ) (RecvCall × List (SendArgs κ)) Package where
  step w e :=
    let r := recvData codec w e.1 e.2
    let after := (r.parsed.map Prod.fst).getD w
    ({ after with client := { after.client with mRb := r.rb } }, r.package.toList)

theorem receiving_lockstep (codec : Codec) :
    (receiving (κ := κ) codec).Lockstep frameCode.receiver (fun w => w.client.mRb.bytes)
      (fun e => e.1.arrival) Frame.package SaneArrival where
  next w e sane := (recvData_refines (parsePackage codec e.2 w) w.client.mRb e.1 sane).1
  emit w e sane := (recvData_refines (parsePackage codec e.2 w) w.client.mRb e.1 sane).2

end MsgClient

section Streams

variable {σ ε : Type*} {M : StepMachine σ ε Package} {ring : σ → List UInt8} {call : ε → RecvCall}

theorem sane_arrivals {b : List UInt8} {fs : List Frame} {as : List (SelfDelimiting.Arrival UInt8)}
    (stream : b ++ SelfDelimiting.arrived as <+: frameCode.encodeAll fs) :
    frameCode.receiver.AllSteps SaneArrival b as := by
  induction as generalizing b fs with
  | nil => trivial
  | cons a as ih =>
      have pieces : SelfDelimiting.arrived (a :: as) = a.piece ++ SelfDelimiting.arrived as := by
        simp [SelfDelimiting.arrived]
      rw [pieces, ← List.append_assoc] at stream
      refine ⟨sane_of_stream ((List.prefix_append _ _).trans stream), ?_⟩
      rw [← frameCode.receiver_conserves b a, List.append_assoc] at stream
      rcases frameCode.prefix_of_encodeAll_prefix stream with ⟨later, _, tail⟩
      exact ih tail

/-- The packages taken out are the first `k` frames, whole and in order, and the ring buffer
holds the rest of what it took. -/
def Conserved (fs : List Frame) (calls : List RecvCall) (packages : List Package)
    (ring : List UInt8) : Prop :=
  ∃ k ≤ fs.length,
    packages.map (fun p => (p.reqId, p.len.toNat, p.data.drop dataHeadLen.toNat)) =
      (fs.take k).map (fun f => (f.reqId, f.payload.length, f.payload)) ∧
    frameCode.encodeAll (fs.take k) ++ ring = received calls

theorem arrivals_map (call : ε → RecvCall) (es : List ε) :
    es.map (fun e => (call e).arrival) = (es.map call).map RecvCall.arrival := by
  rw [List.map_map]
  rfl

theorem conserved_of_lockstep
    (lock : M.Lockstep frameCode.receiver ring (fun e => (call e).arrival) Frame.package
      SaneArrival)
    {s : σ} {es : List ε} {fs : List Frame} (empty : ring s = [])
    (stream : received (es.map call) <+: frameCode.encodeAll fs) :
    Conserved fs (es.map call) (M.trace s es) (ring (M.run s es)) := by
  have events := arrivals_map call es
  have sane := sane_arrivals (b := []) (by rwa [List.nil_append])
  rcases frameCode.run_in_order stream with ⟨later, ordered, _⟩
  have conserved := frameCode.run_conserves [] ((es.map call).map RecvCall.arrival)
  rw [← events, ← empty] at sane
  have runs := lock.run sane
  have traces := lock.trace sane
  rw [events, empty] at runs traces
  generalize frameCode.receiver.trace [] ((es.map call).map RecvCall.arrival) = taken at *
  have firsts : fs.take taken.length = taken := by rw [ordered, List.take_left' rfl]
  refine ⟨taken.length, ?_, ?_, ?_⟩
  · rw [ordered, List.length_append]
    omega
  · rw [traces, firsts, List.map_map]
    apply List.map_congr_left
    intro f _
    simp only [Function.comp_apply, Frame.package, f.len_toNat]
    rfl
  · rw [runs, firsts]
    exact conserved

/-- Every call that returned 0 left no complete frame in the ring buffer. -/
def Drains (M : StepMachine σ ε Package) (ring : σ → List UInt8) (ret : σ → ε → Int) (s : σ)
    (es : List ε) : Prop :=
  M.AllSteps (fun s e => ret s e = 0 → frameCode.Drained (ring (M.next s e))) s es

/-- No call completes more than one frame, and the allocation for a completed one succeeds. -/
def OneFrameAtATime (fs : List Frame) (calls : List RecvCall) : Prop :=
  frameCode.OneAtATime fs 0 (calls.map RecvCall.arrival)

theorem drained_after_iff
    (lock : M.Lockstep frameCode.receiver ring (fun e => (call e).arrival) Frame.package
      SaneArrival)
    {s : σ} {es : List ε} {fs : List Frame} (empty : ring s = [])
    (stream : received (es.map call) <+: frameCode.encodeAll fs) :
    M.AllSteps (fun s e => frameCode.Drained (ring (M.next s e))) s es ↔
      OneFrameAtATime fs (es.map call) := by
  have nothing : frameCode.Drained [] := rfl
  have whole : [] ++ SelfDelimiting.arrived ((es.map call).map RecvCall.arrival) <+:
      frameCode.encodeAll fs := stream
  have sane := sane_arrivals whole
  have none_seen : 0 = (frameCode.encodeAll []).length + ([] : List UInt8).length := rfl
  have abstract_iff := frameCode.stays_drained_iff nothing whole 0 none_seen
  rw [← arrivals_map, ← empty] at sane
  rw [lock.allSteps_after frameCode.Drained sane, arrivals_map, empty]
  exact abstract_iff

theorem drains_of_lockstep
    (lock : M.Lockstep frameCode.receiver ring (fun e => (call e).arrival) Frame.package
      SaneArrival)
    (ret : σ → ε → Int) {s : σ} {es : List ε} {fs : List Frame} (empty : ring s = [])
    (stream : received (es.map call) <+: frameCode.encodeAll fs) :
    (OneFrameAtATime fs (es.map call) → Drains M ring ret s es) ∧
      (M.AllSteps (fun s e => ret s e = 0) s es → Drains M ring ret s es →
        OneFrameAtATime fs (es.map call)) := by
  have always := drained_after_iff lock empty stream
  constructor
  · intro single
    rw [Drains]
    refine M.allSteps_imp ?_ (always.mpr single)
    intro s e drained _
    exact drained
  · intro zeros drains
    exact always.mp (M.allSteps_mp drains zeros)

end Streams

variable {κ υ σ ν : Type*}

/-- Whatever the segmentation and the failing allocations, both ends take out exactly the
first frames of what was sent and keep the remaining bytes. -/
theorem frames_conserved (codec : Codec) (fs : List Frame) :
    (∀ (call : CallbackSem κ υ σ) (srv : MsgServer κ υ) (w : σ) (envs : List MsgServer.RecvEnv),
      srv.mRb = .create →
      received (envs.map (·.call)) <+: frameCode.encodeAll fs →
      Conserved fs (envs.map (·.call)) ((MsgServer.receiving codec call).trace (srv, w) envs)
        ((MsgServer.receiving codec call).run (srv, w) envs).1.mRb.bytes) ∧
    (∀ (w : ClientWorld ν) (calls : List (RecvCall × List (SendArgs ν))),
      w.client.mRb = .create →
      received (calls.map Prod.fst) <+: frameCode.encodeAll fs →
      Conserved fs (calls.map Prod.fst) ((MsgClient.receiving codec).trace w calls)
        ((MsgClient.receiving codec).run w calls).client.mRb.bytes) := by
  constructor
  · intro call srv w envs fresh stream
    exact conserved_of_lockstep (MsgServer.receiving_lockstep codec call)
      (show srv.mRb.bytes = [] by rw [fresh]; rfl) stream
  · intro w calls fresh stream
    exact conserved_of_lockstep (MsgClient.receiving_lockstep codec)
      (show w.client.mRb.bytes = [] by rw [fresh]; rfl) stream

def unknownRequest (reqId : UInt32) : Frame where
  reqId := reqId
  payload := CText.text "\x7b\"type\":7\x7d" ++ [0]
  nonempty := by decide
  fits := by decide

def twoAtOnce : MsgServer.RecvEnv where
  call := ⟨frameCode.encodeAll [unknownRequest 1, unknownRequest 2], true, true⟩
  alloc := fun _ => true
  outcomes := [.count 64, .count 64, .count 64]

def failing : CallbackSem Unit Unit Unit := fun _ _ _ _ w => ⟨.fail, none, w⟩

def accepted : MsgServer Unit Unit := .new 5 (fun _ => none)

theorem frames_conserved_two :
    Conserved [unknownRequest 1, unknownRequest 2] [twoAtOnce.call]
      ((MsgServer.receiving textCodec failing).trace (accepted, ()) [twoAtOnce])
      ((MsgServer.receiving textCodec failing).run (accepted, ()) [twoAtOnce]).1.mRb.bytes :=
  (frames_conserved (ν := Unit) textCodec [unknownRequest 1, unknownRequest 2]).1 failing accepted
    () [twoAtOnce] rfl ⟨[], by decide +kernel⟩

def MsgServer.DrainsRing (codec : Codec) (call : CallbackSem κ υ σ) :
    MsgServer κ υ × σ → List MsgServer.RecvEnv → Prop :=
  Drains (MsgServer.receiving codec call) (fun s => s.1.mRb.bytes)
    (fun s env => (MsgServer.recvData codec call env s.1 s.2).ret)

def MsgClient.DrainsRing (codec : Codec) :
    ClientWorld ν → List (RecvCall × List (SendArgs ν)) → Prop :=
  Drains (MsgClient.receiving codec) (fun w => w.client.mRb.bytes)
    (fun w e => (MsgClient.recvData codec w e.1 e.2).ret)

/-- The ring buffer is drained after every call that returns 0 when the frames are completed
one at a time. On runs whose calls all return 0 nothing less will do. -/
theorem drains_ring (codec : Codec) (fs : List Frame) :
    (∀ (call : CallbackSem κ υ σ) (srv : MsgServer κ υ) (w : σ) (envs : List MsgServer.RecvEnv),
      srv.mRb = .create →
      received (envs.map (·.call)) <+: frameCode.encodeAll fs →
      (OneFrameAtATime fs (envs.map (·.call)) → MsgServer.DrainsRing codec call (srv, w) envs) ∧
      ((MsgServer.receiving codec call).AllSteps
          (fun s env => (MsgServer.recvData codec call env s.1 s.2).ret = 0) (srv, w) envs →
        MsgServer.DrainsRing codec call (srv, w) envs →
        OneFrameAtATime fs (envs.map (·.call)))) ∧
    (∀ (w : ClientWorld ν) (calls : List (RecvCall × List (SendArgs ν))),
      w.client.mRb = .create →
      received (calls.map Prod.fst) <+: frameCode.encodeAll fs →
      (OneFrameAtATime fs (calls.map Prod.fst) → MsgClient.DrainsRing codec w calls) ∧
      ((MsgClient.receiving codec).AllSteps
          (fun w e => (MsgClient.recvData codec w e.1 e.2).ret = 0) w calls →
        MsgClient.DrainsRing codec w calls →
        OneFrameAtATime fs (calls.map Prod.fst))) := by
  constructor
  · intro call srv w envs fresh stream
    exact drains_of_lockstep (MsgServer.receiving_lockstep codec call) _
      (show srv.mRb.bytes = [] by rw [fresh]; rfl) stream
  · intro w calls fresh stream
    exact drains_of_lockstep (MsgClient.receiving_lockstep codec) _
      (show w.client.mRb.bytes = [] by rw [fresh]; rfl) stream

def oneByOne : List MsgServer.RecvEnv :=
  [unknownRequest 1, unknownRequest 2].map fun f =>
    { twoAtOnce with call := ⟨f.encode, true, true⟩ }

theorem drains_ring_one_by_one :
    MsgServer.DrainsRing textCodec failing (accepted, ()) oneByOne :=
  ((drains_ring (ν := Unit) textCodec [unknownRequest 1, unknownRequest 2]).1 failing accepted ()
    oneByOne rfl ⟨[], by decide +kernel⟩).1 (by
      refine ⟨?_, ?_, ?_, ?_, trivial⟩ <;> decide +kernel)

/-- Two requests that arrive together: the call returns 0 and the second one stays in the ring
buffer. -/
theorem two_at_once_not_drained :
    ¬ ∀ (fs : List Frame) (envs : List MsgServer.RecvEnv),
      (∀ f ∈ fs, f.encode.length ≤ socketBufSize) →
      (∀ env ∈ envs, env.call.accepted = true ∧ env.call.mallocOk = true ∧ env.call.data ≠ []) →
      (envs.map (·.call.data)).flatten = frameCode.encodeAll fs →
      MsgServer.DrainsRing textCodec failing (accepted, ()) envs := by
  intro claimed
  have drains := claimed [unknownRequest 1, unknownRequest 2] [twoAtOnce]
    (by decide +kernel) (by decide +kernel) (by decide +kernel)
  have drained := drains.1 (by decide +kernel)
  have left : (splitFrame
      ((MsgServer.receiving textCodec failing).next (accepted, ()) twoAtOnce).1.mRb.bytes).isSome =
        true := by decide +kernel
  have none_left : splitFrame
      ((MsgServer.receiving textCodec failing).next (accepted, ()) twoAtOnce).1.mRb.bytes =
        none := drained
  rw [none_left] at left
  cases left

end TaskMonitor
