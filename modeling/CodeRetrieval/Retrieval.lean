/-
# CodeRetrieval.Retrieval — a query answered from a corpus.

Keyword scores and, with a provider, similarities are computed over the whole corpus and blended.
Without a provider every chunk has the similarity of an absent one, so the order is that of the
keywords.  An empty corpus is answered without asking the provider.
-/
import CodeRetrieval.Corpus
import CodeRetrieval.Ranking
import CodeRetrieval.Similarity.Scoring

namespace CodeRetrieval.Retrieval

open Lexical (Scores)

variable {R : Type} [Scalar R]

/-- The keyword scores of the chunks. -/
def keywordScores (settings : Settings R) (corpus : Corpus) (query : Text) : Scores R :=
  (Lexical.Index.ofDocuments corpus.documents).searchText settings.keyword query

/-- The similarities of the chunks, none without a provider, with the batches sent. -/
def similarities (settings : Settings R) (provider : Option (Provider R)) (corpus : Corpus)
    (query : Text) (schedules : Similarity.Schedules) :
    Traced (List Text) (Except Failure (Scores R)) :=
  match provider with
  | some p => Similarity.attempt settings.embedding p query corpus.chunks schedules
  | none => ⟨[], .ok ∅⟩

/-- The similarities of the chunks. -/
def similarityScores (settings : Settings R) (provider : Option (Provider R)) (corpus : Corpus)
    (query : Text) (schedules : Similarity.Schedules := .inTurn) : Except Failure (Scores R) :=
  (similarities settings provider corpus query schedules).result

/-- The best chunks of a corpus for a query, with the batches sent. -/
def attempt (settings : Settings R) (provider : Option (Provider R)) (corpus : Corpus) (query : Text)
    (schedules : Similarity.Schedules) : Traced (List Text) (Except Failure (List (Ranked R))) :=
  if corpus.chunks.isEmpty then ⟨[], .ok []⟩
  else
    let similarity := similarities settings provider corpus query schedules
    ⟨similarity.sent, similarity.result.map fun scores =>
      Ranking.select settings.rank (keywordScores settings corpus query) scores corpus.chunks⟩

/-- The best chunks of a corpus for a query. -/
def rank (settings : Settings R) (provider : Option (Provider R)) (corpus : Corpus) (query : Text)
    (schedules : Similarity.Schedules := .inTurn) : Except Failure (List (Ranked R)) :=
  (attempt settings provider corpus query schedules).result

/-- The batches sent to the provider while ranking. -/
def sent (settings : Settings R) (provider : Option (Provider R)) (corpus : Corpus) (query : Text)
    (schedules : Similarity.Schedules := .inTurn) : List (List Text) :=
  (attempt settings provider corpus query schedules).sent

end CodeRetrieval.Retrieval
