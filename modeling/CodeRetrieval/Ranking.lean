/-
# CodeRetrieval.Ranking — the final order of the chunks.

A chunk with a keyword score gets it plus its weighted similarity, any other chunk a small part of its
similarity.  So keyword matches come first, unless their similarity is negative or next to nothing.  The
sort is stable: chunks of equal score keep their order.
-/
import CodeRetrieval.Chunk
import CodeRetrieval.Lexical.Bm25

namespace CodeRetrieval

open Lexical (Scores)

/-- A chunk with its scores. -/
structure Ranked (R : Type) where
  chunk : Chunk
  score : R
  keyword : Option R
  similarity : R

namespace Ranking

variable {R : Type} [Scalar R]

/-- The blend of the two scores. -/
def blend (settings : RankSettings R) (keyword : Option R) (similarity : R) : R :=
  match keyword with
  | some k => k + similarity * settings.weight
  | none => settings.soleFactor * similarity

/-- A chunk with the scores that are kept under its key. -/
def rate (settings : RankSettings R) (keyword similarity : Scores R) (chunk : Chunk) : Ranked R :=
  let s := similarity.getD chunk.key settings.absentSimilarity
  let k := keyword[chunk.key]?
  ⟨chunk, blend settings k s, k, s⟩

/-- Whether one chunk need not come behind another. -/
def ranksBefore (a b : Ranked R) : Bool := Scalar.le b.score a.score

/-- The best chunks, best first. -/
def select (settings : RankSettings R) (keyword similarity : Scores R) (chunks : List Chunk) :
    List (Ranked R) :=
  ((chunks.map (rate settings keyword similarity)).mergeSort ranksBefore).take settings.topK

end Ranking

end CodeRetrieval
