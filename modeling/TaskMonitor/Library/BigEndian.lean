import Mathlib.Data.List.Basic
import Mathlib.Tactic.Ring

/-! Big-endian 32-bit words as four bytes. -/

namespace BigEndian

def encode32 (word : UInt32) : List UInt8 :=
  [UInt8.ofNat (word.toNat / 2 ^ 24), UInt8.ofNat (word.toNat / 2 ^ 16),
   UInt8.ofNat (word.toNat / 2 ^ 8), UInt8.ofNat word.toNat]

def value : List UInt8 → Nat
  | [] => 0
  | byte :: bytes => byte.toNat * 256 ^ bytes.length + value bytes

def decode32 (bytes : List UInt8) : UInt32 := UInt32.ofNat (value bytes)

@[simp] theorem encode32_length (word : UInt32) : (encode32 word).length = 4 := rfl

theorem value_encode32 (word : UInt32) : value (encode32 word) = word.toNat := by
  have bound : word.toNat < 2 ^ 32 := word.toNat_lt
  simp only [encode32, value, List.length_cons, List.length_nil, UInt8.toNat_ofNat']
  omega

@[simp] theorem decode32_encode32 (word : UInt32) : decode32 (encode32 word) = word := by
  rw [decode32, value_encode32, UInt32.ofNat_toNat]

theorem value_lt (bytes : List UInt8) : value bytes < 256 ^ bytes.length := by
  induction bytes with
  | nil => decide
  | cons byte bytes ih =>
      have small : byte.toNat < 256 := byte.toNat_lt
      calc
        value (byte :: bytes) < byte.toNat * 256 ^ bytes.length + 256 ^ bytes.length :=
          Nat.add_lt_add_left ih _
        _ = (byte.toNat + 1) * 256 ^ bytes.length := by ring
        _ ≤ 256 * 256 ^ bytes.length := Nat.mul_le_mul_right _ small
        _ = 256 ^ (byte :: bytes).length := by rw [List.length_cons, pow_succ, Nat.mul_comm]

theorem value_injective {left right : List UInt8} (length : left.length = right.length)
    (same : value left = value right) : left = right := by
  induction left generalizing right with
  | nil => exact (List.length_eq_zero_iff.mp length.symm).symm
  | cons x xs ih =>
      cases right with
      | nil => cases length
      | cons y ys =>
          have tails : xs.length = ys.length := by simpa using length
          have lowX := value_lt xs
          have lowY := value_lt ys
          simp only [value, tails] at same lowX
          have positive : 0 < 256 ^ ys.length := Nat.pow_pos (by decide)
          have heads : x.toNat = y.toNat := by
            have quotient := congrArg (· / 256 ^ ys.length) same
            simpa [Nat.mul_comm, Nat.mul_add_div positive, Nat.div_eq_of_lt lowX,
              Nat.div_eq_of_lt lowY] using quotient
          rw [heads] at same
          rw [UInt8.toNat_inj.mp heads, ih tails (Nat.add_left_cancel same)]

theorem encode32_decode32 {bytes : List UInt8} (length : bytes.length = 4) :
    encode32 (decode32 bytes) = bytes := by
  have bound : value bytes < 2 ^ 32 := by
    have below := value_lt bytes
    rw [length] at below
    exact below
  apply value_injective (by rw [encode32_length, length])
  rw [value_encode32, decode32, UInt32.toNat_ofNat_of_lt' bound]

end BigEndian
