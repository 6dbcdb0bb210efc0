/-
# CodeRetrieval.Proofs.ExactNumbers — scores without rounding.

The formulas of the scores run on any numbers that have their operations.  On the reals they mean what
they say: every operation on `Exact` is that of the values, and the order that ranks scores is the one
that compares them.
-/
import CodeRetrieval.Number.Scalar
import Mathlib.Analysis.SpecialFunctions.Log.Basic

namespace CodeRetrieval

/-- A number that no operation rounds. -/
@[ext]
structure Exact where
  value : ℝ

namespace Exact

noncomputable instance : Scalar Exact where
  add x y := ⟨x.value + y.value⟩
  sub x y := ⟨x.value - y.value⟩
  mul x y := ⟨x.value * y.value⟩
  div x y := ⟨x.value / y.value⟩
  ofScientific m s e := ⟨OfScientific.ofScientific m s e⟩
  ofNat n := ⟨n⟩
  ln x := ⟨Real.log x.value⟩
  sqrt x := ⟨Real.sqrt x.value⟩
  below x y := decide (x.value < y.value)
  isZero x := decide (x.value = 0)
  le x y := decide (x.value ≤ y.value)
  le_trans x y z hxy hyz := by
    simp only [decide_eq_true_eq] at hxy hyz ⊢
    exact hxy.trans hyz
  le_total x y := by
    simp only [Bool.or_eq_true, decide_eq_true_eq]
    exact le_total x.value y.value

variable (x y : Exact) (n : Nat)

@[simp]
theorem value_add : (x + y).value = x.value + y.value := rfl

@[simp]
theorem value_sub : (x - y).value = x.value - y.value := rfl

@[simp]
theorem value_mul : (x * y).value = x.value * y.value := rfl

@[simp]
theorem value_div : (x / y).value = x.value / y.value := rfl

@[simp]
theorem value_ofScientific (m : Nat) (s : Bool) (e : Nat) :
    (OfScientific.ofScientific m s e : Exact).value = OfScientific.ofScientific m s e := rfl

@[simp]
theorem value_ofNat : (Scalar.ofNat n : Exact).value = n := rfl

@[simp]
theorem value_sqrt : (Scalar.sqrt x).value = Real.sqrt x.value := rfl

theorem value_half : (0.5 : Exact).value = 1 / 2 := by
  rw [value_ofScientific]
  norm_num

theorem value_one : (1.0 : Exact).value = 1 := by
  rw [value_ofScientific]
  norm_num

@[simp]
theorem le_iff : Scalar.le x y = true ↔ x.value ≤ y.value := decide_eq_true_iff

@[simp]
theorem below_iff : Scalar.below x y = true ↔ x.value < y.value := decide_eq_true_iff

@[simp]
theorem isZero_iff : Scalar.isZero x = true ↔ x.value = 0 := decide_eq_true_iff

/-! ## Sums of positive numbers -/

theorem le_foldl_add {xs : List Exact} (h : ∀ a ∈ xs, 0 < a.value) (start : Exact) :
    start.value ≤ (xs.foldl (· + ·) start).value := by
  induction xs generalizing start with
  | nil => exact le_refl _
  | cons a xs ih =>
      rw [List.forall_mem_cons] at h
      have hrest := ih h.2 (start + a)
      rw [value_add] at hrest
      rw [List.foldl_cons]
      linarith

theorem sum_pos {xs : List Exact} (h : ∀ a ∈ xs, 0 < a.value) (hne : xs ≠ []) :
    0 < (Scalar.sum xs).value := by
  cases xs with
  | nil => exact absurd rfl hne
  | cons a xs =>
      rw [List.forall_mem_cons] at h
      have hrest := le_foldl_add h.2 (Scalar.ofNat 0 + a)
      rw [value_add, value_ofNat, Nat.cast_zero, zero_add] at hrest
      exact h.1.trans_le hrest

end Exact

end CodeRetrieval
