import TaskMonitor.FrameLengths
import TaskMonitor.Library.CText

/-! The payload as `parseServerData` and `parseClientData` of `task_msg.cpp` read it: as a string,
from behind the header on and up to the first NUL. Neither uses the length it is given. -/

namespace TaskMonitor

open CText

/-- The addresses, counted from the start of the package's block, that a string function reads when
it is called with `data + DATA_HEAD_LEN`. Behind the block stand whatever bytes `after` names. -/
def Package.scanned (p : Package) (after : Nat → UInt8) (reads : Nat) : List Nat :=
  scan (laidOut p.data after) dataHeadLen.toNat reads

/-- However far the string function reads, it stays in the block. -/
def Package.ScanInside (p : Package) (after : Nat → UInt8) : Prop :=
  ∀ reads, ∀ address ∈ p.scanned after reads, address < p.data.length

def payloadBytes (b : List UInt8) : List UInt8 := (b.drop 8).take (headerLen b)

theorem scanInside_iff (p : Package) (after : Nat → UInt8) :
    p.ScanInside after ↔ 0 ∈ p.data.drop 8 := by
  have eight : dataHeadLen.toNat = 8 := rfl
  rw [Package.ScanInside]
  simp only [Package.scanned, eight]
  rw [scan_below_iff, laidOut_nul_iff]

/-- Whatever stands behind the block, the scan of an extracted frame that fits the buffer stays in
its block if and only if its payload holds a NUL. -/
theorem scan_inside_iff_nul (b : List UInt8) (mallocOk : Bool) (p : Package) (rb : RingBuf)
    (after : Nat → UInt8) (extracted : getAvailablePackage ⟨b⟩ mallocOk = .yes p rb)
    (fits : 8 + headerLen b ≤ socketBufSize) :
    p.ScanInside after ↔ 0 ∈ payloadBytes b := by
  rcases (getAvailablePackage_yes_iff b mallocOk p rb).mp extracted with ⟨_, _, _, rfl, _⟩
  have size : socketBufSize = 10240 := rfl
  have total : wrappedLen b = 8 + headerLen b := by
    rw [wrappedLen]
    omega
  have payload : (b.take (8 + headerLen b)).drop 8 = payloadBytes b := by
    rw [payloadBytes, List.drop_take, Nat.add_sub_cancel_left]
  rw [scanInside_iff]
  dsimp only
  rw [total, payload]

def letterFrame : List UInt8 := [0, 0, 0, 1, 0, 0, 0, 1, 65]

/-- The frame of one letter is extracted, and the scan reads the byte behind its block. -/
theorem letter_frame_scan_leaves_block :
    ¬ ∀ p rb after, getAvailablePackage ⟨letterFrame⟩ true = .yes p rb →
      8 + headerLen letterFrame ≤ socketBufSize → p.ScanInside after := by
  intro all_inside
  have inside := all_inside ⟨1, 1, letterFrame⟩ ⟨[]⟩ (fun _ => 0) rfl (by decide)
  have bound := inside 2 9 (by decide)
  exact absurd bound (by decide)

/-- With its NUL the frame stays in its block. -/
theorem letter_and_nul_scan_inside :
    Package.ScanInside ⟨1, 2, [0, 0, 0, 1, 0, 0, 0, 2, 65, 0]⟩ (fun _ => 1) :=
  (scan_inside_iff_nul [0, 0, 0, 1, 0, 0, 0, 2, 65, 0] true _ ⟨[]⟩ (fun _ => 1) rfl
    (by decide)).mpr (by decide)

end TaskMonitor
