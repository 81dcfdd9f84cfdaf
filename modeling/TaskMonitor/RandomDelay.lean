import TaskMonitor.TaskClient
import Mathlib.Data.Nat.Basic

/-! `getRandom` of `task_utils.cpp`: the delay before a timer's first expiry. -/

namespace TaskMonitor

def randMax : Nat := 2147483647

abbrev RandomValue := Fin (randMax + 1)

/-- The product converts the `int` to unsigned, the division converts `RAND_MAX`, and the quotient
is stored in the `int` again. -/
def getRandom (random : RandomValue) (max : UInt32) : UInt32 :=
  let rand := Int32.ofNat random
  let rand := (rand.toUInt32 * max / UInt32.ofNat randMax).toInt32
  rand.toUInt32

theorem getRandom_toNat (random : RandomValue) (max : UInt32) :
    (getRandom random max).toNat = random * max.toNat % 2 ^ 32 / randMax := by
  have below : random.val < UInt32.size := Nat.lt_trans random.isLt (by decide)
  have word : (UInt32.ofNat random).toNat = random := UInt32.toNat_ofNat_of_lt' below
  calc
    (getRandom random max).toNat
      = (UInt32.ofNat random * max / UInt32.ofNat randMax).toNat := rfl
    _ = (UInt32.ofNat random * max).toNat / randMax := UInt32.toNat_div _ _
    _ = random * max.toNat % 2 ^ 32 / randMax := by rw [UInt32.toNat_mul, word]

theorem getRandom_le_two (random : RandomValue) (max : UInt32) :
    (getRandom random max).toNat ≤ 2 := by
  rw [getRandom_toNat]
  generalize random * max.toNat = product
  rw [randMax]
  omega

/-- A product that wraps has a quotient of at least 2, and one of 2 leaves too little behind. -/
theorem getRandom_eq_floor_iff (random : RandomValue) (max : UInt32) :
    (getRandom random max).toNat = random * max.toNat / randMax ↔
      random * max.toNat < 2 ^ 32 := by
  rw [getRandom_toNat]
  generalize random * max.toNat = product
  rw [randMax]
  constructor
  · intro same
    by_contra wraps
    have quotient : product / 2147483647 ≤ 2 := by omega
    have low : product % 2 ^ 32 < 2147483647 := by omega
    omega
  · intro fits
    rw [Nat.mod_eq_of_lt fits]

structure Scaled (random : RandomValue) (max : UInt32) : Prop where
  floor : (getRandom random max).toNat = random * max.toNat / randMax
  bound : getRandom random max ≤ max
  top : random = Fin.last randMax → getRandom random max = max
  monotone : ∀ lower ≤ random, getRandom lower max ≤ getRandom random max

theorem scaled_of_fits {random : RandomValue} {max : UInt32}
    (fits : random * max.toNat < 2 ^ 32) : Scaled random max := by
  have floor := (getRandom_eq_floor_iff random max).mpr fits
  have positive : 0 < randMax := by decide
  constructor
  · exact floor
  · apply UInt32.le_iff_toNat_le.mpr
    have scaled : random * max.toNat ≤ randMax * max.toNat :=
      Nat.mul_le_mul_right _ (Nat.le_of_lt_succ random.isLt)
    rw [floor]
    exact Nat.div_le_of_le_mul scaled
  · intro last
    apply UInt32.toNat_inj.mp
    rw [floor, last, Fin.val_last, Nat.mul_div_cancel_left _ positive]
  · intro lower below
    apply UInt32.le_iff_toNat_le.mpr
    have scaled : lower * max.toNat ≤ random * max.toNat := Nat.mul_le_mul_right _ below
    have fits' : lower * max.toNat < 2 ^ 32 := Nat.lt_of_le_of_lt scaled fits
    rw [floor, (getRandom_eq_floor_iff lower max).mpr fits']
    exact Nat.div_le_div_right scaled

theorem scaled_all_iff (max : UInt32) :
    (∀ random, Scaled random max) ↔ max.toNat ≤ 2 := by
  constructor
  · intro every
    have top := (every (Fin.last randMax)).top rfl
    rw [← top]
    exact getRandom_le_two _ _
  · intro small random
    apply scaled_of_fits
    have below : random.val < 2147483648 := random.isLt
    calc
      random * max.toNat ≤ 2147483647 * 2 := Nat.mul_le_mul (by omega) small
      _ < 2 ^ 32 := by decide

/-- The delay is right exactly where the product fits a 32-bit word. -/
theorem scaled_iff (random : RandomValue) (max : UInt32) :
    Scaled random max ↔ random * max.toNat < 2 ^ 32 := by
  constructor
  · intro scaled
    exact (getRandom_eq_floor_iff random max).mp scaled.floor
  · intro fits
    exact scaled_of_fits fits

/-- The library asks for a delay of up to five seconds, and for `RAND_MAX` it gets none. -/
theorem default_delay_unscaled :
    ¬ Scaled (Fin.last randMax) (UInt32.ofNat defaultHeartbeatTimeout) := by
  intro scaled
  have top := scaled.top rfl
  have product : getRandom (Fin.last randMax) (UInt32.ofNat defaultHeartbeatTimeout) = 0 := by
    decide
  rw [product] at top
  cases top

end TaskMonitor
