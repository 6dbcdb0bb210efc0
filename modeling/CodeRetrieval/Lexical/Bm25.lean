/-
# CodeRetrieval.Lexical.Bm25 — the keyword score.

Every distinct term of the query adds, for each document that holds it, the rarity of the term times
its saturated frequency.  The scores of a query are then brought to the unit interval: the best
document gets one and the worst zero, or, where all are equal, every one of them gets one.  Of several
documents with one title the best counts.
-/
import CodeRetrieval.Lexical.Index
import CodeRetrieval.Settings
import Std.Data.HashSet

namespace CodeRetrieval.Lexical

variable {R : Type} [Scalar R]

/-- A map from keys to scores. -/
abbrev Scores (R : Type) := Std.HashMap Text R

/-- The rarity of a term that `holders` of `size` documents hold. -/
def rarity (size holders : Nat) : R :=
  Scalar.ln ((Scalar.ofNat size - Scalar.ofNat holders + 0.5) / (Scalar.ofNat holders + 0.5) + 1.0)

/-- The saturated frequency of a term in a document, whose length is set against the mean length. -/
def saturation (settings : KeywordSettings R) (meanLength : R) (frequency length : Nat) : R :=
  (Scalar.ofNat frequency * (settings.k1 + 1.0)) /
    (Scalar.ofNat frequency +
      settings.k1 * (1.0 - settings.b + settings.b * Scalar.ofNat length / meanLength))

/-- The entries of a list without repetitions, in the order of their first occurrence. -/
def distinct (terms : List Text) : List Text :=
  (terms.foldl (fun (state : Std.HashSet Text × List Text) term =>
    if state.1.contains term then state else (state.1.insert term, term :: state.2))
    (∅, [])).2.reverse

namespace Index

/-- The mean length of the documents. -/
def meanLength (index : Index) : R := Scalar.ofNat index.totalLength / Scalar.ofNat index.size

/-- What a term adds to the score of a document. -/
def contribution (index : Index) (settings : KeywordSettings R) (holders : Nat) (posting : Posting) :
    R :=
  rarity index.size holders *
    saturation settings index.meanLength posting.frequency (index.lengths.getD posting.document 0)

/-- Add to a document's score, which starts at zero. -/
def credit (scores : Std.HashMap Nat R) (document : Nat) (amount : R) : Std.HashMap Nat R :=
  scores.insert document (scores.getD document (Scalar.ofNat 0) + amount)

/-- The scores after one more term. -/
def scoreTerm (index : Index) (settings : KeywordSettings R) (scores : Std.HashMap Nat R)
    (term : Text) : Std.HashMap Nat R :=
  let postings := index.find term
  postings.foldl
    (fun scores posting =>
      credit scores posting.document (index.contribution settings postings.length posting))
    scores

/-- Whether one scored document ranks before another: higher scores first, then earlier documents. -/
def ranksBefore (a b : Nat × R) : Bool :=
  if Scalar.le b.2 a.2 then if Scalar.le a.2 b.2 then a.1 ≤ b.1 else true else false

/-- The scores after all terms of the query, in no order. -/
def termScores (index : Index) (settings : KeywordSettings R) (query : List Text) :
    Std.HashMap Nat R :=
  (distinct query).foldl (index.scoreTerm settings) ∅

/-- Scored documents brought into their order; none if there is no document or no term at all. -/
def rankListed (index : Index) (entries : List (Nat × R)) : List (Nat × R) :=
  if index.size = 0 ∨ index.totalLength = 0 then [] else entries.mergeSort ranksBefore

/-- The documents that hold a term of the query, best first, with their scores. -/
def rawScores (index : Index) (settings : KeywordSettings R) (query : List Text) : List (Nat × R) :=
  index.rankListed (index.termScores settings query).toList

/-- A score on the scale from `low` to `high`. -/
def normalise (low high score : R) : R :=
  if Scalar.below (Scalar.ofNat 0) (high - low) then (score - low) / (high - low) else Scalar.ofNat 0

/-- The scores in the unit interval, by title. -/
def search (index : Index) (settings : KeywordSettings R) (query : List Text) : Scores R :=
  let ranked := index.rawScores settings query
  match ranked.head?, ranked.getLast? with
  | some (_, high), some (_, lowest) =>
    let low := if Scalar.below lowest high then lowest else Scalar.ofNat 0
    ranked.foldl
      (fun scores entry =>
        scores.insertIfNew (index.titles.getD entry.1 []) (normalise low high entry.2))
      ∅
  | _, _ => ∅

/-- Search for the terms of a text. -/
def searchText (index : Index) (settings : KeywordSettings R) (query : Text) : Scores R :=
  index.search settings (Token.all query)

end Index

end CodeRetrieval.Lexical
