/-
# CodeRetrieval.Proofs.Ranking — what the final order is known for.

Sorting puts the rated chunks in descending order and loses none; cutting the result to its best comes
last.  Of the two score maps only what stands under the keys of the chunks is read.
-/
import CodeRetrieval.Ranking

namespace CodeRetrieval.Ranking

open Lexical (Scores)

variable {R : Type} [Scalar R] {settings : RankSettings R} {keyword similarity : Scores R}
  {chunks : List Chunk} {chunk : Chunk}

/-! ## The two formulas -/

theorem rate_score_of_some {k : R} (h : keyword[chunk.key]? = some k) :
    (rate settings keyword similarity chunk).score =
      k + similarity.getD chunk.key settings.absentSimilarity * settings.weight := by
  unfold rate blend
  rw [h]

theorem rate_score_of_none (h : keyword[chunk.key]? = none) :
    (rate settings keyword similarity chunk).score =
      settings.soleFactor * similarity.getD chunk.key settings.absentSimilarity := by
  unfold rate blend
  rw [h]

/-! ## The order -/

theorem ranksBefore_trans (a b c : Ranked R) (hab : ranksBefore a b = true)
    (hbc : ranksBefore b c = true) : ranksBefore a c = true :=
  Scalar.le_trans c.score b.score a.score hbc hab

theorem ranksBefore_total (a b : Ranked R) : (ranksBefore a b || ranksBefore b a) = true :=
  Scalar.le_total b.score a.score

/-- A ranking of all chunks before it is cut: each chunk once, with the scores kept under its key, and
by descending score. -/
structure Ranks (settings : RankSettings R) (keyword similarity : Scores R) (chunks : List Chunk)
    (ranking : List (Ranked R)) : Prop where
  complete : (ranking.map Ranked.chunk).Perm chunks
  rated : ∀ entry ∈ ranking, entry = rate settings keyword similarity entry.chunk
  descending : ranking.Pairwise fun a b => Scalar.le b.score a.score = true

/-- The best chunks are the first ones of a ranking of all. -/
theorem exists_ranks (settings : RankSettings R) (keyword similarity : Scores R)
    (chunks : List Chunk) :
    ∃ ranking, Ranks settings keyword similarity chunks ranking ∧
      select settings keyword similarity chunks = ranking.take settings.topK := by
  have hperm := List.mergeSort_perm (chunks.map (rate settings keyword similarity)) ranksBefore
  have hchunks : (chunks.map (rate settings keyword similarity)).map Ranked.chunk = chunks := by
    rw [List.map_map]
    exact List.map_id chunks
  refine ⟨_, ⟨?_, ?_, ?_⟩, rfl⟩
  · have hcomplete := hperm.map Ranked.chunk
    rwa [hchunks] at hcomplete
  · intro entry hentry
    obtain ⟨chunk, _, rfl⟩ := List.mem_map.mp (hperm.mem_iff.mp hentry)
    rfl
  · exact List.pairwise_mergeSort ranksBefore_trans ranksBefore_total _

/-- Similarities that agree under the keys of the chunks give one selection. -/
theorem select_congr {similarity' : Scores R}
    (h : ∀ chunk ∈ chunks, similarity[chunk.key]? = similarity'[chunk.key]?) :
    select settings keyword similarity chunks = select settings keyword similarity' chunks := by
  have hrate : chunks.map (rate settings keyword similarity) =
      chunks.map (rate settings keyword similarity') := by
    rw [List.map_inj_left]
    intro chunk hchunk
    unfold rate
    rw [Std.HashMap.getD_eq_getD_getElem?, Std.HashMap.getD_eq_getD_getElem?, h chunk hchunk]
  unfold select
  rw [hrate]

/-- A chunk without a similarity is ranked with that of an absent one. -/
theorem rate_similarity_of_none (h : similarity[chunk.key]? = none) :
    (rate settings keyword similarity chunk).similarity = settings.absentSimilarity := by
  show similarity.getD chunk.key settings.absentSimilarity = _
  rw [Std.HashMap.getD_eq_getD_getElem?, h, Option.getD_none]

end CodeRetrieval.Ranking
