/-
# CodeRetrieval.Number.Binary64 — binary floating point with signed undefined values.

A double keeps its bits; only the sign of an undefined value ("not a number") is kept beside it,
because the total order tells the two signs apart.  An operation on an undefined operand returns that
operand, the left one first, and an operation that is undefined on ordinary operands returns a
negative one.  `order` places every double on one line: undefined and negative, minus infinity up to
minus zero, zero up to infinity, undefined and positive.
-/
import CodeRetrieval.Basic
import CodeRetrieval.Number.Scalar

namespace CodeRetrieval

/-- A double; `negative` is the sign of an undefined value and means nothing for others. -/
structure Binary64 where
  value : Float
  negative : Bool

namespace Binary64

/-- A double from its value. -/
def ofFloat (value : Float) : Binary64 := ⟨value, false⟩

/-- The undefined value of positive sign. -/
def undefined : Binary64 := ⟨0.0 / 0.0, false⟩

/-- Positive infinity. -/
def infinity : Binary64 := ⟨1.0 / 0.0, false⟩

/-- The double of opposite sign. -/
def neg (x : Binary64) : Binary64 := ⟨-x.value, !x.negative⟩

/-- Whether the value is undefined. -/
def isUndefined (x : Binary64) : Bool := x.value.isNaN

/-- A result: undefined ones that an operation makes are negative. -/
def result (value : Float) : Binary64 := ⟨value, value.isNaN⟩

/-- An operation on two doubles. -/
def apply (f : Float → Float → Float) (x y : Binary64) : Binary64 :=
  if x.isUndefined then x else if y.isUndefined then y else result (f x.value y.value)

/-- A function of one double. -/
def map (f : Float → Float) (x : Binary64) : Binary64 :=
  if x.isUndefined then x else result (f x.value)

/-- The place of a double in the total order. -/
def order (x : Binary64) : Int :=
  if x.isUndefined then if x.negative then -(twoTo 64 : Int) else (twoTo 64 : Int)
  else
    let bits := x.value.toBits.toNat
    if bits < twoTo 63 then bits else -((bits : Int) - (twoTo 63 : Int)) - 1

instance : Scalar Binary64 where
  add := apply (· + ·)
  sub := apply (· - ·)
  mul := apply (· * ·)
  div := apply (· / ·)
  ofScientific m s e := ofFloat (OfScientific.ofScientific m s e)
  ofNat n := ofFloat (Float.ofNat n)
  ln := map Float.log
  sqrt := map Float.sqrt
  below x y := x.value < y.value
  isZero x := x.value == 0.0
  le x y := x.order ≤ y.order
  le_trans x y z hxy hyz := by
    simp only [decide_eq_true_eq] at hxy hyz ⊢
    exact Int.le_trans hxy hyz
  le_total x y := by
    simp only [Bool.or_eq_true, decide_eq_true_eq]
    exact Int.le_total x.order y.order

/-- The double nearest to the value in single precision. -/
def toSingle (x : Binary64) : Binary64 := ⟨x.value.toFloat32.toFloat, x.negative⟩

/-- A machine word rounded once to single precision. -/
def singleOfWord (word : Nat) : Binary64 := ofFloat word.toUInt64.toFloat32.toFloat

end Binary64

end CodeRetrieval
