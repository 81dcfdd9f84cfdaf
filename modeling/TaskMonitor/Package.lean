import TaskMonitor.Library.SelfDelimiting
import TaskMonitor.Socket

/-! `getAvailablePackage` of `task_msg.cpp` and the receive path that both ends share.

The ring buffer is a FIFO byte queue whose writes are all-or-nothing: whether a write is
accepted is an input. -/

namespace TaskMonitor

def socketBufSize : Nat := 10 * 1024

def dataHeadLen : UInt32 := 8

structure RingBuf where
  bytes : List UInt8
  deriving DecidableEq

namespace RingBuf

def create : RingBuf := ⟨[]⟩

def getDataSize (rb : RingBuf) : Nat := rb.bytes.length

def writeData (rb : RingBuf) (data : List UInt8) (accepted : Bool) : RingBuf × Nat :=
  if accepted then (⟨rb.bytes ++ data⟩, data.length) else (rb, 0)

def readDataOnly (rb : RingBuf) (n : Nat) : List UInt8 := rb.bytes.take n

def readData (rb : RingBuf) (n : Nat) : List UInt8 × RingBuf := (rb.bytes.take n, ⟨rb.bytes.drop n⟩)

end RingBuf

/-- What `getAvailablePackage` hands out: the header words and the allocated block, header
included. -/
structure Package where
  reqId : UInt32
  len : UInt32
  data : List UInt8
  deriving DecidableEq

inductive Available where
  | no (ret : Int) (rb : RingBuf)
  | yes (package : Package) (rb : RingBuf)

def getAvailablePackage (rb : RingBuf) (mallocOk : Bool) : Available :=
  let dataLen := rb.getDataSize
  if dataLen ≤ dataHeadLen.toNat then .no 0 rb
  else
    let buf := rb.readDataOnly dataHeadLen.toNat
    let reqId := ntohl (buf.take 4)
    let len := ntohl (buf.drop 4)
    if dataLen < (len + dataHeadLen).toNat then .no 0 rb
    else if !mallocOk then .no 0 rb
    else
      let (data, rb') := rb.readData (len + dataHeadLen).toNat
      if data.length ≠ (len + dataHeadLen).toNat then .no (-1) rb'
      else .yes ⟨reqId, len, data⟩ rb'

/-- Outcome of a receive call: its result, the ring buffer, the package taken out of it and
what the parser made of it. -/
structure Received (ρ : Type*) where
  ret : Int
  rb : RingBuf
  package : Option Package
  parsed : Option ρ

/-- `procData`: at most one package is taken out and handed to the parser. -/
def procData {ρ : Type*} (parse : Package → Int × ρ) (rb : RingBuf) (mallocOk : Bool) :
    Received ρ :=
  match getAvailablePackage rb mallocOk with
  | .no ret rb => ⟨ret, rb, none, none⟩
  | .yes package rb =>
      let (ret, parsed) := parse package
      ⟨ret, rb, some package, some parsed⟩

structure RecvCall where
  data : List UInt8
  accepted : Bool
  mallocOk : Bool
  deriving DecidableEq

def recvData {ρ : Type*} (parse : Package → Int × ρ) (rb : RingBuf) (call : RecvCall) :
    Received ρ :=
  let (rb, ret) := rb.writeData call.data call.accepted
  if ret = 0 then ⟨-1, rb, none, none⟩
  else procData parse rb call.mallocOk

theorem recvData_parsed {ρ : Type*} {Q : ρ → Prop} (parse : Package → Int × ρ)
    (parses : ∀ package, Q (parse package).2) (rb : RingBuf) (call : RecvCall) :
    ∀ p ∈ (recvData parse rb call).parsed, Q p := by
  unfold recvData procData
  dsimp only
  split
  · simp
  · split
    · simp
    · rename_i package _ _
      intro p member
      obtain rfl := Option.some.inj member
      exact parses package

theorem recvData_hands {ρ : Type*} (parse : Package → Int × ρ) (rb : RingBuf) (call : RecvCall) :
    (recvData parse rb call).parsed = (recvData parse rb call).package.map (parse · |>.2) := by
  unfold recvData procData
  dsimp only
  split
  · rfl
  · split <;> rfl

/-- A frame as the two senders write it. -/
structure Frame where
  reqId : UInt32
  payload : List UInt8
  nonempty : payload ≠ []
  fits : payload.length + dataHeadLen.toNat < 2 ^ 32
  deriving DecidableEq

namespace Frame

def len (f : Frame) : UInt32 := UInt32.ofNat f.payload.length

def encode (f : Frame) : List UInt8 := htonl f.reqId ++ htonl f.len ++ f.payload

def package (f : Frame) : Package := ⟨f.reqId, f.len, f.encode⟩

theorem len_toNat (f : Frame) : f.len.toNat = f.payload.length := by
  have fits := f.fits
  exact UInt32.toNat_ofNat_of_lt' (show f.payload.length < 2 ^ 32 by omega)

theorem encode_length (f : Frame) : f.encode.length = f.payload.length + 8 := by
  simp only [encode, htonl, List.length_append, BigEndian.encode32_length]
  omega

end Frame

def headerLen (b : List UInt8) : Nat := (ntohl ((b.take 8).drop 4)).toNat

def splitFrame (b : List UInt8) : Option (Frame × List UInt8) :=
  if complete : 0 < headerLen b ∧ headerLen b + 8 < 2 ^ 32 ∧ headerLen b + 8 ≤ b.length then
    some (⟨ntohl (b.take 4), (b.drop 8).take (headerLen b),
      by
        have length : ((b.drop 8).take (headerLen b)).length = headerLen b := by
          rw [List.length_take, List.length_drop]
          omega
        intro empty
        rw [empty, List.length_nil] at length
        omega,
      by
        have length := List.length_take_le (headerLen b) (b.drop 8)
        have small : dataHeadLen.toNat = 8 := rfl
        omega⟩, b.drop (headerLen b + 8))
  else none

theorem header_encode (f : Frame) (rest : List UInt8) :
    ntohl ((f.encode ++ rest).take 4) = f.reqId ∧
      headerLen (f.encode ++ rest) = f.payload.length := by
  have front : (f.encode ++ rest).take 4 = htonl f.reqId := rfl
  have word : ((f.encode ++ rest).take 8).drop 4 = htonl f.len := rfl
  rw [headerLen, front, word]
  simp only [ntohl, htonl, BigEndian.decode32_encode32, f.len_toNat, and_self]

theorem cut_encode (f : Frame) (rest : List UInt8) :
    (f.encode ++ rest).take (f.payload.length + 8) = f.encode ∧
      (f.encode ++ rest).drop (f.payload.length + 8) = rest :=
  ⟨List.take_left' f.encode_length, List.drop_left' f.encode_length⟩

theorem encode_append_length (f : Frame) (rest : List UInt8) :
    f.payload.length + 8 ≤ (f.encode ++ rest).length := by
  rw [List.length_append, f.encode_length]
  omega

theorem splitFrame_eq_some_iff (b : List UInt8) (f : Frame) (rest : List UInt8) :
    splitFrame b = some (f, rest) ↔ b = f.encode ++ rest := by
  constructor
  · intro found
    rw [splitFrame] at found
    split at found
    · rename_i complete
      simp only [Option.some.injEq, Prod.mk.injEq] at found
      rcases found with ⟨rfl, rfl⟩
      rcases complete with ⟨positive, fits, enough⟩
      have length : ((b.drop 8).take (headerLen b)).length = headerLen b := by
        rw [List.length_take, List.length_drop]
        omega
      have idBytes : htonl (ntohl (b.take 4)) = b.take 4 :=
        BigEndian.encode32_decode32 (by rw [List.length_take]; omega)
      have lenBytes : htonl (ntohl ((b.take 8).drop 4)) = (b.take 8).drop 4 :=
        BigEndian.encode32_decode32 (by rw [List.length_drop, List.length_take]; omega)
      have lenWord : UInt32.ofNat (headerLen b) = ntohl ((b.take 8).drop 4) := UInt32.ofNat_toNat
      simp only [Frame.encode, Frame.len, length, lenWord, idBytes, lenBytes]
      have head : b.take 4 ++ (b.take 8).drop 4 = b.take 8 := by
        have cut := List.take_append_drop 4 (b.take 8)
        rwa [List.take_take] at cut
      rw [head, List.append_assoc, Nat.add_comm, ← List.drop_drop, List.take_append_drop,
        List.take_append_drop]
    · cases found
  · intro joined
    subst joined
    rcases header_encode f rest with ⟨ids, lens⟩
    have positive : 0 < f.payload.length := List.length_pos_iff.mpr f.nonempty
    have fits : f.payload.length + 8 < 2 ^ 32 := f.fits
    have payload : ((f.encode ++ rest).drop 8).take f.payload.length = f.payload := by
      have tail : (f.encode ++ rest).drop 8 = f.payload ++ rest := rfl
      rw [tail, List.take_left']
      rfl
    rw [splitFrame]
    simp only [lens, ids, payload, (cut_encode f rest).2]
    rw [dif_pos ⟨positive, fits, encode_append_length f rest⟩]

def frameCode : SelfDelimiting Frame UInt8 where
  encode := Frame.encode
  split := splitFrame
  encode_ne_nil := by
    intro f empty
    have length := f.encode_length
    rw [empty, List.length_nil] at length
    omega
  split_eq_some_iff := splitFrame_eq_some_iff

end TaskMonitor
