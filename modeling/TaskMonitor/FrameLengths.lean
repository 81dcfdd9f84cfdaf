import TaskMonitor.FrameStream

/-! The 32-bit sum of the header's length and the header's size, in all the places of
`getAvailablePackage` that use it. -/

namespace TaskMonitor

open Cjson

/-- The sum as the code computes it. -/
def wrappedLen (b : List UInt8) : Nat := (headerLen b + 8) % 2 ^ 32

theorem wrappedLen_eq (b : List UInt8) :
    (ntohl ((b.take 8).drop 4) + dataHeadLen).toNat = wrappedLen b := by
  have eight : dataHeadLen.toNat = 8 := rfl
  rw [UInt32.toNat_add, eight, wrappedLen, headerLen]

/-- A block is handed out when there are more than eight bytes, as many as the sum says, and memory
for them. In every other case the answer is the same, and the branch of a failed read is not
taken. -/
theorem getAvailablePackage_if (b : List UInt8) (mallocOk : Bool) :
    getAvailablePackage ⟨b⟩ mallocOk =
      if 8 < b.length ∧ wrappedLen b ≤ b.length ∧ mallocOk = true then
        .yes ⟨ntohl (b.take 4), ntohl ((b.take 8).drop 4), b.take (wrappedLen b)⟩
          ⟨b.drop (wrappedLen b)⟩
      else .no 0 ⟨b⟩ := by
  have eight : dataHeadLen.toNat = 8 := rfl
  have ids : (b.take 8).take 4 = b.take 4 := by rw [List.take_take]; rfl
  rw [getAvailablePackage]
  simp only [RingBuf.getDataSize, RingBuf.readDataOnly, RingBuf.readData, eight, wrappedLen_eq, ids]
  by_cases short : b.length ≤ 8
  · have none_found : ¬ (8 < b.length ∧ wrappedLen b ≤ b.length ∧ mallocOk = true) := by omega
    rw [if_pos short, if_neg none_found]
  rw [if_neg short]
  by_cases incomplete : b.length < wrappedLen b
  · have none_found : ¬ (8 < b.length ∧ wrappedLen b ≤ b.length ∧ mallocOk = true) := by omega
    rw [if_pos incomplete, if_neg none_found]
  have whole : (b.take (wrappedLen b)).length = wrappedLen b := by
    rw [List.length_take]
    omega
  rw [if_neg incomplete, if_neg (not_not.mpr whole)]
  cases mallocOk with
  | false => simp
  | true =>
      have found : 8 < b.length ∧ wrappedLen b ≤ b.length ∧ true = true :=
        ⟨by omega, by omega, rfl⟩
      rw [if_pos found]
      rfl

theorem getAvailablePackage_yes_iff (b : List UInt8) (mallocOk : Bool) (p : Package)
    (rb : RingBuf) :
    getAvailablePackage ⟨b⟩ mallocOk = .yes p rb ↔
      8 < b.length ∧ wrappedLen b ≤ b.length ∧ mallocOk = true ∧
        p = ⟨ntohl (b.take 4), ntohl ((b.take 8).drop 4), b.take (wrappedLen b)⟩ ∧
        rb = ⟨b.drop (wrappedLen b)⟩ := by
  rw [getAvailablePackage_if]
  constructor
  · intro yes
    split at yes
    · rename_i found
      cases yes
      exact ⟨found.1, found.2.1, found.2.2, rfl, rfl⟩
    · cases yes
  · intro found
    rcases found with ⟨long, enough, ok, rfl, rfl⟩
    rw [if_pos ⟨long, enough, ok⟩]

structure ExactBlock (b : List UInt8) (p : Package) (rb : RingBuf) : Prop where
  len : p.len.toNat = headerLen b
  consumed : b = p.data ++ rb.bytes
  allocated : p.data.length = 8 + p.len.toNat

/-- Whatever is in the ring buffer, a block that is handed out is exact if and only if the length
word, where it is looked at and memory is found, is below 2^32 - 8. -/
theorem blocks_exact_iff (b : List UInt8) (mallocOk : Bool) :
    (∀ p rb, getAvailablePackage ⟨b⟩ mallocOk = .yes p rb → ExactBlock b p rb) ↔
      (8 < b.length → mallocOk = true → headerLen b + 8 < 2 ^ 32) := by
  have bound : headerLen b < 2 ^ 32 := UInt32.toNat_lt _
  constructor
  · intro exact_blocks long ok
    by_contra large
    have small : wrappedLen b = headerLen b + 8 - 2 ^ 32 := by
      rw [wrappedLen]
      omega
    have yes := (getAvailablePackage_yes_iff b mallocOk _ _).mpr
      ⟨long, by omega, ok, rfl, rfl⟩
    have allocated := (exact_blocks _ _ yes).allocated
    have cut := List.length_take_le (wrappedLen b) b
    have len : (ntohl ((b.take 8).drop 4)).toNat = headerLen b := rfl
    dsimp only at allocated
    omega
  · intro fits p rb yes
    rcases (getAvailablePackage_yes_iff b mallocOk p rb).mp yes with ⟨long, enough, ok, rfl, rfl⟩
    have total : wrappedLen b = headerLen b + 8 := Nat.mod_eq_of_lt (fits long ok)
    refine ⟨rfl, (List.take_append_drop _ b).symm, ?_⟩
    calc
      (b.take (wrappedLen b)).length = wrappedLen b := by rw [List.length_take]; omega
      _ = 8 + headerLen b := by omega

def hugeHeader : List UInt8 := [0, 0, 0, 1, 255, 255, 255, 248, 0]

/-- A header whose sum wraps is reported as complete, with a block of no bytes and a payload of
2^32 - 8. -/
theorem huge_header_is_complete :
    ¬ ∀ p rb, getAvailablePackage ⟨hugeHeader⟩ true = .yes p rb → ExactBlock hugeHeader p rb := by
  intro exact_blocks
  have yes : getAvailablePackage ⟨hugeHeader⟩ true = .yes ⟨1, 4294967288, []⟩ ⟨hugeHeader⟩ := rfl
  have allocated := (exact_blocks _ _ yes).allocated
  exact absurd allocated (by decide)

end TaskMonitor
