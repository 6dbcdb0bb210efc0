/-
# CodeRetrieval.Proofs.CosineBounds — similarities lie between minus one and one.

The three sums of a cosine run over the common coordinates of two vectors, and at every point of the
run the square of the dot product is at most the product of the squares of the norms: one more pair of
coordinates adds to both sides, and to the second not less.  So the quotient is bounded, and nothing is
divided by zero, as a norm of zero is asked for before.  What a change of the vectors does to the sums
it does at every step of the run; that gives the laws of the cosine.

The score of a chunk is a mean of cosines, to one vector of the query at least.
-/
import CodeRetrieval.Proofs.CheckedNumbers
import CodeRetrieval.Proofs.EmbeddingFailure

namespace CodeRetrieval

/-- A vector with every coordinate multiplied by a factor. -/
def scale (factor : ℝ) (v : List Exact) : List Exact := v.map fun x => ⟨factor * x.value⟩

/-! ## The sums -/

namespace Products

section Changes

variable {R S : Type} [Scalar R] [Scalar S]

/-- Where the sums keep up with a change of every pair of coordinates, the sums of the changed vectors
are the changed sums. -/
theorem of_eq_of_zip {f : Products R → Products S} {g : R × R → S × S} {a b : List R} {a' b' : List S}
    (hzip : a'.zip b' = (a.zip b).map g)
    (hstart : f ⟨Scalar.ofNat 0, Scalar.ofNat 0, Scalar.ofNat 0⟩ =
      ⟨Scalar.ofNat 0, Scalar.ofNat 0, Scalar.ofNat 0⟩)
    (hadd : ∀ p xy, f (p.add xy) = (f p).add (g xy)) : of a' b' = f (of a b) := by
  unfold of
  rw [hzip, List.foldl_map, ← hstart]
  exact List.foldl_hom f fun p xy => (hadd p xy).symm

/-- The sums with the vectors exchanged. -/
def swap (p : Products R) : Products R := ⟨p.dot, p.right, p.left⟩

end Changes

/-- The sums with the first vector multiplied by a factor. -/
def scaled (factor : ℝ) (p : Products Exact) : Products Exact :=
  ⟨⟨factor * p.dot.value⟩, ⟨factor ^ 2 * p.left.value⟩, p.right⟩

/-- The sums with every number checked. -/
def checked (p : Products Exact) : Products Checked := ⟨.of p.dot, .of p.left, .of p.right⟩

theorem of_comm (a b : List Exact) : of b a = (of a b).swap := by
  apply of_eq_of_zip (List.zip_swap a b).symm rfl
  intro p xy
  have hproduct : xy.1 * xy.2 = xy.2 * xy.1 := Exact.ext (mul_comm _ _)
  unfold swap add
  rw [hproduct]
  rfl

theorem of_scale (factor : ℝ) (a b : List Exact) : of (scale factor a) b = (of a b).scaled factor := by
  apply of_eq_of_zip (g := Prod.map (fun x => ⟨factor * x.value⟩) id)
  · exact List.zip_map_left
  · simp [scaled, Exact.ext_iff]
  · intro p xy
    unfold scaled add
    simp only [Prod.map_fst, Prod.map_snd, id_eq, mk.injEq, Exact.ext_iff, Exact.value_add,
      Exact.value_mul, and_true]
    constructor <;> ring

theorem of_map_checked (a b : List Exact) :
    of (a.map Checked.of) (b.map Checked.of) = (of a b).checked :=
  of_eq_of_zip List.zip_map rfl fun _ _ => rfl

/-- The squares of the norms are not negative, and that of the dot product is at most their product. -/
structure Bounded (p : Products Exact) : Prop where
  left_nonneg : 0 ≤ p.left.value
  right_nonneg : 0 ≤ p.right.value
  dot_sq_le : p.dot.value ^ 2 ≤ p.left.value * p.right.value

/-- One more pair of coordinates keeps the bound. -/
theorem Bounded.add {p : Products Exact} (h : p.Bounded) (xy : Exact × Exact) : (p.add xy).Bounded := by
  obtain ⟨x, y⟩ := xy
  obtain ⟨hleft, hright, hdot⟩ := h
  refine ⟨?_, ?_, ?_⟩
  · exact add_nonneg hleft (mul_self_nonneg x.value)
  · exact add_nonneg hright (mul_self_nonneg y.value)
  · -- what the product of the norms gains from each other's new coordinate
    have hgain : 0 ≤ p.left.value * y.value ^ 2 + p.right.value * x.value ^ 2 :=
      add_nonneg (mul_nonneg hleft (sq_nonneg _)) (mul_nonneg hright (sq_nonneg _))
    have hmixed : (2 * p.dot.value * (x.value * y.value)) ^ 2 ≤
        (p.left.value * y.value ^ 2 + p.right.value * x.value ^ 2) ^ 2 := by
      have hscaled := mul_le_mul_of_nonneg_right hdot (sq_nonneg (2 * x.value * y.value))
      have hsquare := sq_nonneg (p.left.value * y.value ^ 2 - p.right.value * x.value ^ 2)
      calc (2 * p.dot.value * (x.value * y.value)) ^ 2
          = p.dot.value ^ 2 * (2 * x.value * y.value) ^ 2 := by ring
        _ ≤ p.left.value * p.right.value * (2 * x.value * y.value) ^ 2 := hscaled
        _ ≤ (p.left.value * y.value ^ 2 + p.right.value * x.value ^ 2) ^ 2 := by linarith
    have hterm : 2 * p.dot.value * (x.value * y.value) ≤
        p.left.value * y.value ^ 2 + p.right.value * x.value ^ 2 :=
      le_of_abs_le (abs_le_of_sq_le_sq hmixed hgain)
    show (p.dot.value + x.value * y.value) ^ 2 ≤
      (p.left.value + x.value * x.value) * (p.right.value + y.value * y.value)
    linarith

theorem bounded_of (a b : List Exact) : (of a b).Bounded := by
  have hrun : ∀ (xys : List (Exact × Exact)) (p : Products Exact), p.Bounded →
      (xys.foldl add p).Bounded := by
    intro xys
    induction xys with
    | nil => exact fun p h => h
    | cons xy xys ih => exact fun p h => ih (p.add xy) (h.add xy)
  apply hrun
  constructor <;> simp

end Products

/-! ## The cosine -/

section Test

variable {R : Type} [Scalar R] {a b : List R}

/-- Whether one of the norms is zero over the common coordinates. -/
def HasZeroNorm (a b : List R) : Prop :=
  (Scalar.isZero (Products.of a b).left || Scalar.isZero (Products.of a b).right) = true

theorem cosine_of_hasZeroNorm (h : HasZeroNorm a b) : cosine a b = Scalar.ofNat 0 := if_pos h

theorem cosine_of_not_hasZeroNorm (h : ¬ HasZeroNorm a b) :
    cosine a b = (Products.of a b).dot /
      (Scalar.sqrt (Products.of a b).left * Scalar.sqrt (Products.of a b).right) := if_neg h

end Test

section Cosine

variable (a b : List Exact)

/-- Over the reals the test for a norm of zero changes nothing: the quotient by zero is zero. -/
theorem value_cosine : (cosine a b).value = (Products.of a b).dot.value /
    (√(Products.of a b).left.value * √(Products.of a b).right.value) := by
  by_cases hzero : HasZeroNorm a b
  · rw [cosine_of_hasZeroNorm hzero]
    rw [HasZeroNorm, Bool.or_eq_true, Exact.isZero_iff, Exact.isZero_iff] at hzero
    rcases hzero with hzero | hzero <;> simp [hzero]
  · rw [cosine_of_not_hasZeroNorm hzero]
    rfl

theorem abs_value_cosine_le_one : |(cosine a b).value| ≤ 1 := by
  obtain ⟨hleft, _, hdot⟩ := Products.bounded_of a b
  have hnorms : 0 ≤ √(Products.of a b).left.value * √(Products.of a b).right.value :=
    mul_nonneg (Real.sqrt_nonneg _) (Real.sqrt_nonneg _)
  have habs : |(Products.of a b).dot.value| ≤
      √(Products.of a b).left.value * √(Products.of a b).right.value := by
    rw [← Real.sqrt_mul hleft]
    exact Real.abs_le_sqrt hdot
  rw [value_cosine, abs_div, abs_of_nonneg hnorms]
  exact div_le_one_of_le₀ habs hnorms

theorem cosine_comm : cosine b a = cosine a b := by
  apply Exact.ext
  rw [value_cosine, value_cosine, Products.of_comm]
  unfold Products.swap
  simp only
  rw [mul_comm (√_)]

/-- A factor leaves its sign. -/
theorem value_cosine_scale (factor : ℝ) :
    (cosine (scale factor a) b).value = factor / |factor| * (cosine a b).value := by
  rw [value_cosine, value_cosine, Products.of_scale]
  unfold Products.scaled
  simp only
  rw [Real.sqrt_mul (sq_nonneg factor), Real.sqrt_sq_eq_abs, mul_assoc, mul_div_mul_comm]

/-- Checked norms are zero where the norms are. -/
theorem hasZeroNorm_checked : HasZeroNorm (a.map Checked.of) (b.map Checked.of) ↔ HasZeroNorm a b := by
  unfold HasZeroNorm
  rw [Products.of_map_checked]
  rfl

/-- The cosine has a number where every step is checked. -/
theorem cosine_checked : cosine (a.map Checked.of) (b.map Checked.of) = .of (cosine a b) := by
  obtain ⟨hleft, hright, _⟩ := Products.bounded_of a b
  by_cases hzero : HasZeroNorm a b
  · rw [cosine_of_hasZeroNorm hzero, cosine_of_hasZeroNorm ((hasZeroNorm_checked a b).mpr hzero)]
    rfl
  · rw [cosine_of_not_hasZeroNorm hzero,
      cosine_of_not_hasZeroNorm (mt (hasZeroNorm_checked a b).mp hzero), Products.of_map_checked]
    unfold Products.checked
    rw [Checked.sqrt_of hleft, Checked.sqrt_of hright, Checked.of_mul]
    rw [HasZeroNorm, Bool.or_eq_true, not_or, Exact.isZero_iff, Exact.isZero_iff] at hzero
    apply Checked.of_div
    rw [Exact.value_mul, Exact.value_sqrt, Exact.value_sqrt]
    exact mul_ne_zero (Real.sqrt_ne_zero'.mpr (lt_of_le_of_ne hleft (Ne.symm hzero.1)))
      (Real.sqrt_ne_zero'.mpr (lt_of_le_of_ne hright (Ne.symm hzero.2)))

/-- The laws of the cosine of two vectors: nothing is divided by zero, the value lies between minus one
and one, and it is the same for the vectors exchanged and for one of them multiplied by a positive
factor, and the opposite for one of them negated. -/
structure CosineLaws : Prop where
  checked : cosine (a.map Checked.of) (b.map Checked.of) = .of (cosine a b)
  bounded : -1 ≤ (cosine a b).value ∧ (cosine a b).value ≤ 1
  symm : cosine b a = cosine a b
  scaled : ∀ factor > 0, cosine (scale factor a) b = cosine a b ∧ cosine a (scale factor b) = cosine a b
  negated : (cosine (scale (-1) a) b).value = -(cosine a b).value ∧
    (cosine a (scale (-1) b)).value = -(cosine a b).value

theorem cosineLaws : CosineLaws a b := by
  have hscaled : ∀ factor > 0, ∀ v w : List Exact, cosine (scale factor v) w = cosine v w := by
    intro factor hfactor v w
    apply Exact.ext
    rw [value_cosine_scale, abs_of_pos hfactor, div_self hfactor.ne', one_mul]
  have hnegated : ∀ v w : List Exact, (cosine (scale (-1) v) w).value = -(cosine v w).value := by
    intro v w
    rw [value_cosine_scale, abs_neg, abs_one, div_one, neg_one_mul]
  refine ⟨cosine_checked a b, abs_le.mp (abs_value_cosine_le_one a b), cosine_comm a b, ?_, ?_⟩
  · intro factor hfactor
    refine ⟨hscaled factor hfactor a b, ?_⟩
    rw [cosine_comm, hscaled factor hfactor, cosine_comm]
  · refine ⟨hnegated a b, ?_⟩
    rw [cosine_comm, hnegated, cosine_comm]

end Cosine

/-! ## Scores -/

/-- A sum of numbers between minus one and one moves by one for each of them at most. -/
theorem abs_value_foldl_add_le {xs : List Exact} (h : ∀ x ∈ xs, |x.value| ≤ 1) (start : Exact) :
    |(xs.foldl (· + ·) start).value| ≤ |start.value| + xs.length := by
  induction xs generalizing start with
  | nil => simp
  | cons x xs ih =>
      rw [List.forall_mem_cons] at h
      have hrest := ih h.2 (start + x)
      have hadd : |(start + x).value| ≤ |start.value| + |x.value| := abs_add_le start.value x.value
      rw [List.foldl_cons, List.length_cons, Nat.cast_succ]
      linarith [h.1]

theorem abs_value_mean_le_one {xs : List Exact} (h : ∀ x ∈ xs, |x.value| ≤ 1) :
    |(Scalar.mean xs).value| ≤ 1 := by
  have hsum : |(Scalar.sum xs).value| ≤ xs.length := by
    have hfold := abs_value_foldl_add_le h (Scalar.ofNat 0)
    rwa [Exact.value_ofNat, Nat.cast_zero, abs_zero, zero_add] at hfold
  show |(Scalar.sum xs).value / (xs.length : ℝ)| ≤ 1
  rw [abs_div, Nat.abs_cast]
  exact div_le_one_of_le₀ hsum (Nat.cast_nonneg _)

namespace Similarity

/-- A mean over one vector of the query at least has a number where every step is checked. -/
theorem meanCosine_checked {query : List (List Exact)} (hquery : query ≠ []) (vector : List Exact) :
    meanCosine (query.map (List.map Checked.of)) (vector.map Checked.of) =
      .of (meanCosine query vector) := by
  have hlength : (Scalar.ofNat query.length : Exact).value ≠ 0 :=
    (Nat.cast_pos.mpr (List.length_pos_of_ne_nil hquery)).ne'
  have hcosines :
      (query.map (List.map Checked.of)).map (fun piece => cosine piece (vector.map Checked.of)) =
      (query.map fun piece => cosine piece vector).map Checked.of := by
    rw [List.map_map, List.map_map]
    exact List.map_congr_left fun piece _ => cosine_checked piece vector
  unfold meanCosine Scalar.mean
  rw [hcosines, Checked.sum_map_of, List.length_map, List.length_map, Checked.of_ofNat,
    Checked.of_div hlength]

theorem abs_value_meanCosine_le_one (query : List (List Exact)) (vector : List Exact) :
    |(meanCosine query vector).value| ≤ 1 := by
  apply abs_value_mean_le_one
  intro x hx
  obtain ⟨piece, _, rfl⟩ := List.mem_map.mp hx
  exact abs_value_cosine_le_one piece vector

variable {R : Type} {settings : EmbeddingSettings} {provider : Provider R} {query : Text}

/-- A query that can be used has a vector. -/
theorem ne_nil_of_checkQuery {pieces : List Text} {vectors : List (List R)} {q : Nat × List (List R)}
    (h : checkQuery pieces vectors = .ok q) : q.2 ≠ [] := by
  cases vectors with
  | nil => cases h
  | cons first rest =>
      unfold checkQuery at h
      simp only at h
      split at h
      · cases h
      · obtain rfl := Except.ok.inj h
        exact List.cons_ne_nil first rest

theorem ne_nil_of_queryVectors {q : Nat × List (List R)}
    (h : queryVectors settings provider query = .ok q) : q.2 ≠ [] := by
  unfold queryVectors at h
  cases hanswers : (batches settings.batchSize (pieces settings query)).mapM provider with
  | error failure =>
      rw [hanswers] at h
      cases h
  | ok answers =>
      rw [hanswers] at h
      exact ne_nil_of_checkQuery h

/-- What is scored is the mean of the cosines of some vector to those of the query. -/
theorem exists_meanCosine_of_getElem? [Scalar R] {chunks : List Chunk} {schedules : Schedules}
    {scores : Lexical.Scores R} (h : score settings provider query chunks schedules = .ok scores)
    {key : Text} {x : R} (hx : scores[key]? = some x) :
    ∃ q vector, queryVectors settings provider query = .ok q ∧ x = meanCosine q.2 vector := by
  obtain ⟨q, hquery, rfl⟩ := exists_query_of_score h
  rw [getElem?_scoreChunks] at hx
  obtain ⟨c, _, hc⟩ := List.exists_of_findSome?_eq_some hx
  rw [Option.ite_none_right_eq_some] at hc
  obtain ⟨vector, _, hvector⟩ := Option.map_eq_some_iff.mp hc.2
  exact ⟨q, vector, hquery, hvector.symm⟩

/-- The laws of the cosine hold of all vectors, whatever their lengths.  Every score of a chunk is the
mean of its cosines to the vectors of the query, of which there is one at least, so that here too nothing
is divided by zero; and it lies between minus one and one. -/
theorem similarities_are_bounded :
    (∀ a b : List Exact, CosineLaws a b) ∧
    ∀ (settings : EmbeddingSettings) (provider : Provider Exact) (query : Text) (chunks : List Chunk)
      (schedules : Schedules) (scores : Lexical.Scores Exact),
      score settings provider query chunks schedules = .ok scores →
      ∀ (key : Text) (x : Exact), scores[key]? = some x →
        (∃ q vector, queryVectors settings provider query = .ok q ∧ q.2 ≠ [] ∧
          x = meanCosine q.2 vector ∧
          meanCosine (q.2.map (List.map Checked.of)) (vector.map Checked.of) = .of x) ∧
        -1 ≤ x.value ∧ x.value ≤ 1 := by
  refine ⟨cosineLaws, ?_⟩
  intro settings provider query chunks schedules scores hscore key x hx
  obtain ⟨q, vector, hquery, rfl⟩ := exists_meanCosine_of_getElem? hscore hx
  have hne : q.2 ≠ [] := ne_nil_of_queryVectors hquery
  refine ⟨⟨q, vector, hquery, hne, rfl, meanCosine_checked hne vector⟩, ?_⟩
  exact abs_le.mp (abs_value_meanCosine_le_one q.2 vector)

/-- How often two letters stand in a text. -/
noncomputable def letterCounts (text : Text) : List Exact :=
  [Scalar.ofNat (text.count 'x'), Scalar.ofNat (text.count 'y')]

/-- A chunk that has none of the letters of the query, so that its vector has norm zero, and one that
has both. -/
def blankAndBoth : List Chunk := [⟨['z'], ['f'], 1, 1, .plain⟩, ⟨['x', 'y'], ['g'], 1, 1, .plain⟩]

theorem similarities_of_blankAndBoth_are_bounded :
    (0 : ℝ) < 2 ∧ cosine (scale 2 (letterCounts ['x'])) (letterCounts ['z']) =
        cosine (letterCounts ['x']) (letterCounts ['z']) ∧
      ∃ scores, score .standard (Provider.pointwise letterCounts) ['x'] blankAndBoth = .ok scores ∧
        ∀ chunk ∈ blankAndBoth, ∃ x, scores[chunk.key]? = some x ∧ -1 ≤ x.value ∧ x.value ≤ 1 := by
  have htwo : (0 : ℝ) < 2 := two_pos
  obtain ⟨hlaws, hbounded⟩ := similarities_are_bounded
  refine ⟨htwo, ((hlaws (letterCounts ['x']) (letterCounts ['z'])).scaled 2 htwo).1, ?_⟩
  have hdigest : Collisionless blankAndBoth := by decide +kernel
  have hkeys : (blankAndBoth.map Chunk.key).Nodup := by decide +kernel
  have hdimension : ∀ text, (letterCounts text).length = 2 := fun _ => rfl
  obtain ⟨scores, hscore, hfound⟩ :=
    getElem?_score_pointwise .standard hdimension ['x'] hkeys hdigest .inTurn
  refine ⟨scores, hscore, fun chunk hchunk => ⟨_, hfound chunk hchunk, ?_⟩⟩
  exact (hbounded .standard _ ['x'] blankAndBoth .inTurn scores hscore _ _ (hfound chunk hchunk)).2

end Similarity

end CodeRetrieval
