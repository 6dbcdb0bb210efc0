/-
# CodeRetrieval.Basic — powers and batches.

Powers of two bound machine words and cut digests into words, powers of ten are the places of decimals
and the units of durations.  Batches cut a list into runs of a fixed size: all but the last are full, none
is empty, and put together they are the list.
-/

namespace CodeRetrieval

/-! ## Powers -/

/-- A power of two. -/
def twoTo (n : Nat) : Nat := Nat.pow 2 n

/-- A power of ten. -/
def tenTo (n : Nat) : Nat := Nat.pow 10 n

@[simp]
theorem twoTo_zero : twoTo 0 = 1 := rfl

theorem twoTo_succ (n : Nat) : twoTo (n + 1) = twoTo n * 2 := rfl

/-! ## Batches -/

/-- The list cut into batches of `size` entries, the last one possibly shorter; a `size` of zero counts
as one. -/
def batches {α : Type} (size : Nat) : List α → List (List α)
  | [] => []
  | x :: rest => (x :: rest.take (size - 1)) :: batches size (rest.drop (size - 1))
termination_by xs => xs.length
decreasing_by
  simp only [List.length_cons, List.length_drop]
  omega

/-- The batches put together are the list. -/
theorem flatten_batches {α : Type} (size : Nat) (xs : List α) : (batches size xs).flatten = xs := by
  fun_induction batches size xs with
  | case1 => rfl
  | case2 x rest ih => simp [ih]

end CodeRetrieval
