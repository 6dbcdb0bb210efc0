/-
# CodeRetrieval.Proofs.DoubleOrder — the total order tells doubles apart.

The order of doubles reads their bits, and of undefined values, which all have the same bits, the sign
beside them.  That sign means nothing for other values, and every operation leaves it unset there.  So
two results of operations that have one place in the order are the same double.
-/
import CodeRetrieval.Number.Binary64
import Mathlib

namespace CodeRetrieval.Binary64

variable {x y : Binary64}

/-- The sign beside the value is set for undefined values only. -/
def Canonical (x : Binary64) : Prop := x.isUndefined = false → x.negative = false

/-! ## Operations -/

theorem canonical_ofFloat (value : Float) : (ofFloat value).Canonical := fun _ => rfl

theorem canonical_result (value : Float) : (result value).Canonical := fun h => h

theorem canonical_apply (f : Float → Float → Float) (x y : Binary64) : (apply f x y).Canonical := by
  unfold apply
  split
  · rename_i hx
    exact fun h => absurd hx (by simp [h])
  · split
    · rename_i hy
      exact fun h => absurd hy (by simp [h])
    · exact canonical_result _

theorem canonical_sum (xs : List Binary64) : (Scalar.sum xs).Canonical := by
  unfold Scalar.sum
  rcases List.eq_nil_or_concat xs with rfl | ⟨front, x, rfl⟩
  · exact canonical_ofFloat _
  · rw [List.concat_eq_append, List.foldl_append]
    exact canonical_apply _ _ _

/-! ## The order -/

/-- There is one undefined value, but for its sign. -/
theorem value_eq_of_isUndefined (hx : x.isUndefined = true) (hy : y.isUndefined = true) :
    x.value = y.value := by
  unfold isUndefined at hx hy
  rw [Float.isNaN_eq_decide_eq_nan, decide_eq_true_eq] at hx hy
  rw [hx, hy]

theorem twoTo_64 : twoTo 64 = 2 * twoTo 63 := twoTo_succ 63 |>.trans (Nat.mul_comm _ _)

theorem toBits_lt (value : Float) : value.toBits.toNat < 2 * twoTo 63 :=
  value.toBits.toNat_lt

theorem order_of_isUndefined (h : x.isUndefined = true) :
    x.order = if x.negative then -(twoTo 64 : Int) else (twoTo 64 : Int) := by
  unfold order
  rw [if_pos h]

theorem order_of_not_isUndefined (h : x.isUndefined = false) :
    x.order = if x.value.toBits.toNat < twoTo 63 then (x.value.toBits.toNat : Int)
      else -((x.value.toBits.toNat : Int) - (twoTo 63 : Int)) - 1 := by
  unfold order
  rw [if_neg (by simp [h])]

/-- Undefined values stand at the two ends of the order. -/
theorem order_ne_of_isUndefined (hx : x.isUndefined = true) (hy : y.isUndefined = false) :
    x.order ≠ y.order := by
  have hbits := toBits_lt y.value
  have hends := twoTo_64
  rw [order_of_isUndefined hx, order_of_not_isUndefined hy]
  split <;> split <;> omega

/-- Canonical doubles at one place of the order are the same. -/
theorem Canonical.eq_of_order_eq (hx : x.Canonical) (hy : y.Canonical) (h : x.order = y.order) :
    x = y := by
  obtain ⟨hvalue, hsign⟩ : x.value = y.value ∧ x.negative = y.negative := by
    cases hxu : x.isUndefined with
    | true =>
        cases hyu : y.isUndefined with
        | true =>
            refine ⟨value_eq_of_isUndefined hxu hyu, ?_⟩
            rw [order_of_isUndefined hxu, order_of_isUndefined hyu] at h
            have hpos : 0 < twoTo 64 := by decide
            revert h
            cases x.negative <;> cases y.negative <;> simp <;> omega
        | false => exact absurd h (order_ne_of_isUndefined hxu hyu)
    | false =>
        cases hyu : y.isUndefined with
        | true => exact absurd h.symm (order_ne_of_isUndefined hyu hxu)
        | false =>
            refine ⟨?_, (hx hxu).trans (hy hyu).symm⟩
            rw [order_of_not_isUndefined hxu, order_of_not_isUndefined hyu] at h
            rw [← Float.toBits_inj, ← UInt64.toNat_inj]
            split at h <;> split at h <;> omega
  cases x
  cases y
  simp only at hvalue hsign
  rw [hvalue, hsign]

theorem Canonical.eq_of_le (hx : x.Canonical) (hy : y.Canonical) (hxy : Scalar.le x y = true)
    (hyx : Scalar.le y x = true) : x = y :=
  hx.eq_of_order_eq hy (Int.le_antisymm (of_decide_eq_true hxy) (of_decide_eq_true hyx))

end CodeRetrieval.Binary64
