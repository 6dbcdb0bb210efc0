/-
# CodeRetrieval.Proofs.CheckedNumbers — numbers for formulas that must not divide by zero.

Over the reals a division by zero has a value like any other.  A `Checked` number is a real number or
none at all: dividing by zero leaves none, so does the logarithm of a number that is not positive or the
root of a negative one, and what is computed from none is none.  So a formula that has a number here has
divided by zero nowhere, and the number is the one it has over the reals.
-/
import CodeRetrieval.Proofs.ExactNumbers

namespace CodeRetrieval

/-- A number that no operation rounds, or none. -/
structure Checked where
  number : Option Exact

namespace Checked

/-- A number that is there. -/
def of (x : Exact) : Checked := ⟨some x⟩

/-- An operation on two numbers, none if one of them is or if it is not defined for them. -/
def apply (f : Exact → Exact → Option Exact) (x y : Checked) : Checked :=
  ⟨x.number.bind fun a => y.number.bind fun b => f a b⟩

/-- Whether two numbers are there and compare. -/
def compare (test : Exact → Exact → Bool) (x y : Checked) : Bool :=
  x.number.any fun a => y.number.any fun b => test a b

noncomputable instance : Scalar Checked where
  add := apply fun a b => some (a + b)
  sub := apply fun a b => some (a - b)
  mul := apply fun a b => some (a * b)
  div := apply fun a b => if b.value = 0 then none else some (a / b)
  ofScientific m s e := of (OfScientific.ofScientific m s e)
  ofNat n := of (Scalar.ofNat n)
  ln x := ⟨x.number.bind fun a => if 0 < a.value then some (Scalar.ln a) else none⟩
  sqrt x := ⟨x.number.bind fun a => if 0 ≤ a.value then some (Scalar.sqrt a) else none⟩
  below := compare Scalar.below
  isZero x := x.number.any Scalar.isZero
  -- none comes before all numbers
  le x y := x.number.isNone || compare Scalar.le x y
  le_trans := by
    rintro ⟨_ | a⟩ ⟨_ | b⟩ ⟨_ | c⟩ <;> simp [compare]
    exact le_trans
  le_total := by
    rintro ⟨_ | a⟩ ⟨_ | b⟩ <;> simp [compare]
    exact le_total a.value b.value

variable (x y : Exact) (n : Nat)

theorem of_add : of x + of y = of (x + y) := rfl

theorem of_sub : of x - of y = of (x - y) := rfl

theorem of_mul : of x * of y = of (x * y) := rfl

theorem of_ofScientific (m : Nat) (s : Bool) (e : Nat) :
    (OfScientific.ofScientific m s e : Checked) = of (OfScientific.ofScientific m s e) := rfl

theorem of_ofNat : (Scalar.ofNat n : Checked) = of (Scalar.ofNat n) := rfl

theorem of_le_of : Scalar.le (of x) (of y) = Scalar.le x y := rfl

variable {x y}

theorem of_div (h : y.value ≠ 0) : of x / of y = of (x / y) := by
  show (⟨if y.value = 0 then none else some (x / y)⟩ : Checked) = _
  rw [if_neg h]
  rfl

theorem ln_of (h : 0 < x.value) : Scalar.ln (of x) = of (Scalar.ln x) := by
  show (⟨if 0 < x.value then some (Scalar.ln x) else none⟩ : Checked) = _
  rw [if_pos h]
  rfl

theorem sqrt_of (h : 0 ≤ x.value) : Scalar.sqrt (of x) = of (Scalar.sqrt x) := by
  show (⟨if 0 ≤ x.value then some (Scalar.sqrt x) else none⟩ : Checked) = _
  rw [if_pos h]
  rfl

theorem sum_map_of (xs : List Exact) : Scalar.sum (xs.map of) = of (Scalar.sum xs) := by
  unfold Scalar.sum
  rw [List.foldl_map]
  exact List.foldl_hom of fun _ _ => rfl

end Checked

end CodeRetrieval
