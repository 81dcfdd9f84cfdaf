import TaskMonitor.Library.StepMachine
import Mathlib.Algebra.BigOperators.Group.List.Basic
import Mathlib.Algebra.Order.Field.Basic
import Mathlib.Tactic.Linarith
import Mathlib.Tactic.Ring

/-! A countdown that is armed again whenever it has run down, and looked at now and then. -/

namespace StepMachine

variable {α : Type*} [Field α] [LinearOrder α]

/-- What is left, as time passes. Time that is left over when it runs down is lost. -/
def countdown (delay : α) : StepMachine α α Unit :=
  ⟨fun left dt => if left ≤ dt then (delay, [()]) else (left - dt, [])⟩

namespace Countdown

theorem step_due (delay : α) {left dt : α} (due : left ≤ dt) :
    (countdown delay).next left dt = delay ∧ (countdown delay).emit left dt = [()] := by
  simp [next, emit, countdown, due]

theorem step_early (delay : α) {left dt : α} (early : ¬ left ≤ dt) :
    (countdown delay).next left dt = left - dt ∧ (countdown delay).emit left dt = [] := by
  simp [next, emit, countdown, early]

variable [IsStrictOrderedRing α] {delay left slack : α} {dts : List α}

theorem left_bounds (nonneg : 0 ≤ delay) (forward : ∀ dt ∈ dts, 0 ≤ dt) (initial : 0 ≤ left)
    (below : left ≤ delay) :
    0 ≤ (countdown delay).run left dts ∧ (countdown delay).run left dts ≤ delay := by
  induction dts generalizing left with
  | nil => exact ⟨initial, below⟩
  | cons dt dts ih =>
      have now := forward dt List.mem_cons_self
      have later : ∀ dt ∈ dts, 0 ≤ dt := fun dt member => forward dt (List.mem_cons_of_mem _ member)
      rw [run_cons]
      by_cases due : left ≤ dt
      · rw [(step_due delay due).1]
        exact ih later nonneg (le_refl delay)
      · rw [(step_early delay due).1]
        exact ih later (by linarith) (by linarith)

/-- No expiry is early: the time that has passed accounts for all of them. -/
theorem never_early (delay left : α) (dts : List α) :
    left + ((countdown delay).trace left dts).length * delay ≤
      dts.sum + (countdown delay).run left dts := by
  induction dts generalizing left with
  | nil => simp
  | cons dt dts ih =>
      rw [trace_cons, run_cons, List.sum_cons]
      by_cases due : left ≤ dt
      · rcases step_due delay due with ⟨again, expired⟩
        have later := ih delay
        rw [again, expired, List.length_append, List.length_singleton]
        push_cast
        linarith
      · rcases step_early delay due with ⟨less, silent⟩
        have later := ih (left - dt)
        rw [less, silent, List.nil_append]
        linarith

/-- None is missed: each loses less than the time between two looks. -/
theorem never_missed (nonneg : 0 ≤ delay) (forward : ∀ dt ∈ dts, 0 ≤ dt)
    (fine : ∀ dt ∈ dts, dt ≤ slack) (initial : 0 ≤ left) :
    dts.sum + (countdown delay).run left dts ≤
      left + ((countdown delay).trace left dts).length * (delay + slack) := by
  induction dts generalizing left with
  | nil => simp
  | cons dt dts ih =>
      have now := forward dt List.mem_cons_self
      have short := fine dt List.mem_cons_self
      have forward' : ∀ dt ∈ dts, 0 ≤ dt :=
        fun dt member => forward dt (List.mem_cons_of_mem _ member)
      have fine' : ∀ dt ∈ dts, dt ≤ slack :=
        fun dt member => fine dt (List.mem_cons_of_mem _ member)
      rw [trace_cons, run_cons, List.sum_cons]
      by_cases due : left ≤ dt
      · rcases step_due delay due with ⟨again, expired⟩
        have later := ih forward' fine' nonneg
        rw [again, expired, List.length_append, List.length_singleton]
        push_cast
        linarith
      · rcases step_early delay due with ⟨less, silent⟩
        have remains : 0 ≤ left - dt := by linarith
        have later := ih forward' fine' remains
        rw [less, silent, List.nil_append]
        linarith

end Countdown

end StepMachine
