/-
# CodeRetrieval.Number.Scalar — the numbers that scores are made of.

Scoring uses four operations, the logarithm, the square root, a numeric comparison and a total order
for sorting.  The formulas are written once for every type that has them, so that they can be run on
binary floating point and reasoned about over the reals.  Of all these only the order has laws: sorting
by it has one result.
-/

namespace CodeRetrieval

/-- What the scoring formulas ask of their numbers.  `below` and `isZero` compare numerically, and
nothing compares with an undefined value; `le` is the total order that ranks scores, in which different
numbers may have one place. -/
class Scalar (R : Type) extends Add R, Sub R, Mul R, Div R, OfScientific R where
  ofNat : Nat → R
  ln : R → R
  sqrt : R → R
  below : R → R → Bool
  isZero : R → Bool
  le : R → R → Bool
  le_trans : ∀ x y z, le x y = true → le y z = true → le x z = true
  le_total : ∀ x y, (le x y || le y x) = true

namespace Scalar

variable {R : Type} [Scalar R]

/-- The sum of a list, from the left. -/
def sum (xs : List R) : R := xs.foldl (· + ·) (ofNat 0)

/-- The mean of a list. -/
def mean (xs : List R) : R := sum xs / ofNat xs.length

end Scalar

end CodeRetrieval
