/-
# CodeRetrieval.Proofs.DirectRetrieval — retrieval without keys.

`Retrieval.Direct` ranks chunks without an index, keys, batches or slots: each chunk is rated from its
own text and the texts of all chunks, and the rated chunks are sorted once.  Retrieval gives the same
ranking if the keys of the chunks differ, no two of their texts have one digest, and the provider answers
every text on its own with a vector of one dimension.
-/
import CodeRetrieval.Number.Binary64
import CodeRetrieval.Proofs.KeywordSearch
import CodeRetrieval.Proofs.Similarity
import CodeRetrieval.Retrieval

namespace CodeRetrieval.Retrieval

open Lexical (Scores)

variable {R : Type} [Scalar R]

namespace Direct

/-- The similarity of a text to a query: the mean cosine to its pieces, or a constant where nothing is
embedded. -/
def similarity (settings : Settings R) (embed : Option (Text → List R)) (query text : Text) : R :=
  match embed with
  | some f =>
    Scalar.mean ((Similarity.pieces settings.embedding query).map fun piece => cosine (f piece) (f text))
  | none => settings.rank.absentSimilarity

/-- A chunk with the scores of its text among all texts, blended. -/
def rate (settings : Settings R) (embed : Option (Text → List R)) (texts : List Text) (query : Text)
    (chunk : Chunk) : Ranked R :=
  let keyword := Lexical.Direct.normalised settings.keyword texts (Token.all query) chunk.text
  let similarity := similarity settings embed query chunk.text
  let score :=
    match keyword with
    | some k => k + similarity * settings.rank.weight
    | none => settings.rank.soleFactor * similarity
  ⟨chunk, score, keyword, similarity⟩

/-- The best chunks: rated one by one, then sorted by descending score, chunks of one score in their
order. -/
def rank (settings : Settings R) (embed : Option (Text → List R)) (chunks : List Chunk)
    (query : Text) : List (Ranked R) :=
  let rated := chunks.map (rate settings embed (chunks.map Chunk.text) query)
  (rated.mergeSort fun a b => Scalar.le b.score a.score).take settings.rank.topK

end Direct

variable {settings : Settings R} {corpus : Corpus} {query : Text}

/-- The keyword score under a chunk's key is the normalised score of the chunk's text. -/
theorem getElem?_keywordScores (hkeys : (corpus.chunks.map Chunk.key).Nodup) {chunk : Chunk}
    (hmem : chunk ∈ corpus.chunks) :
    (keywordScores settings corpus query)[chunk.key]? =
      Lexical.Direct.normalised settings.keyword (corpus.chunks.map Chunk.text) (Token.all query)
        chunk.text := by
  have htitles : corpus.documents.map Document.title = corpus.chunks.map Chunk.key := by
    unfold Corpus.documents
    rw [List.map_map]
    rfl
  have hcontents : corpus.documents.map Document.content = corpus.chunks.map Chunk.text := by
    unfold Corpus.documents
    rw [List.map_map]
    rfl
  have hbuilt := Lexical.Index.built_ofDocuments corpus.documents
  have hsearch := hbuilt.represents.getElem?_search_title (htitles ▸ hkeys) settings.keyword
    (Token.all query) (List.mem_map_of_mem (f := Corpus.document) hmem)
  rw [hcontents] at hsearch
  exact hsearch

/-- Without a provider or with a pointwise one of one dimension, the similarity under a chunk's key is
that of the chunk's text. -/
theorem getD_similarityScores (settings : Settings R) {embed : Option (Text → List R)} (query : Text)
    (hkeys : (corpus.chunks.map Chunk.key).Nodup) (hdigest : Similarity.Collisionless corpus.chunks)
    (hembed : ∀ f ∈ embed, ∃ dimension, ∀ text, (f text).length = dimension)
    (schedules : Similarity.Schedules) :
    ∃ scores, similarityScores settings (embed.map Provider.pointwise) corpus query schedules =
        .ok scores ∧
      ∀ chunk ∈ corpus.chunks, scores.getD chunk.key settings.rank.absentSimilarity =
        Direct.similarity settings embed query chunk.text := by
  cases embed with
  | none =>
      refine ⟨∅, rfl, ?_⟩
      intro chunk _
      exact Std.HashMap.getD_empty
  | some f =>
      obtain ⟨dimension, hdimension⟩ := hembed f rfl
      obtain ⟨scores, hscores, hlookup⟩ := Similarity.getElem?_score_pointwise settings.embedding
        hdimension query hkeys hdigest schedules
      refine ⟨scores, hscores, ?_⟩
      intro chunk hmem
      rw [Std.HashMap.getD_eq_getD_getElem?, hlookup chunk hmem, Option.getD_some]
      unfold Similarity.meanCosine Direct.similarity
      rw [List.map_map]
      rfl

/-- With similarities for the query, retrieval selects from all chunks. -/
theorem rank_of_similarityScores {provider : Option (Provider R)} {schedules : Similarity.Schedules}
    {scores : Scores R} (h : similarityScores settings provider corpus query schedules = .ok scores) :
    rank settings provider corpus query schedules =
      .ok (Ranking.select settings.rank (keywordScores settings corpus query) scores
        corpus.chunks) := by
  unfold similarityScores at h
  unfold rank attempt
  split
  · next hempty =>
      rw [List.isEmpty_iff.mp hempty]
      simp [Ranking.select]
  · dsimp only
    rw [h]
    rfl

/-- Retrieval is the direct ranking, for all settings, queries and corpora of different keys and without
colliding digests, without a provider or with any pointwise one of one dimension, whenever its batches are
sent and answered.  An empty corpus is answered with nothing, whatever the provider, and nothing is sent to
it. -/
theorem rank_is_direct (settings : Settings R) (query : Text) :
    (∀ (corpus : Corpus) (embed : Option (Text → List R)) (schedules : Similarity.Schedules),
      (corpus.chunks.map Chunk.key).Nodup → Similarity.Collisionless corpus.chunks →
      (∀ f ∈ embed, ∃ dimension, ∀ text, (f text).length = dimension) →
      rank settings (embed.map Provider.pointwise) corpus query schedules =
        .ok (Direct.rank settings embed corpus.chunks query)) ∧
    ∀ provider schedules, rank settings provider ⟨[]⟩ query schedules = .ok [] ∧
      sent settings provider ⟨[]⟩ query schedules = [] := by
  refine ⟨?_, fun provider schedules => ⟨rfl, rfl⟩⟩
  intro corpus embed schedules hkeys hdigest hembed
  obtain ⟨similarity, hsimilarity, hlookup⟩ :=
    getD_similarityScores settings query hkeys hdigest hembed schedules
  -- chunk by chunk the scores kept under the key are those of the text
  have hrate : corpus.chunks.map (Ranking.rate settings.rank
      (keywordScores settings corpus query) similarity) =
      corpus.chunks.map (Direct.rate settings embed (corpus.chunks.map Chunk.text) query) := by
    rw [List.map_inj_left]
    intro chunk hmem
    unfold Ranking.rate Direct.rate
    simp only
    rw [hlookup chunk hmem, getElem?_keywordScores hkeys hmem]
    rfl
  rw [rank_of_similarityScores hsimilarity, Ranking.select, hrate]
  rfl

/-- Three chunks of a file, the first and the last of one text. -/
def threeLines : Corpus :=
  let content : Text := ['x', 'a', '\n', 'y', 'b', '\n', 'x', 'a']
  ⟨[⟨content, ['f'], 1, 1, .plain⟩, ⟨content, ['f'], 2, 2, .plain⟩, ⟨content, ['f'], 3, 3, .plain⟩]⟩

theorem collisionless_threeLines : Similarity.Collisionless threeLines.chunks := by decide +kernel

/-- A vector of two coordinates, how often a text has each of two letters. -/
def letterCounts (text : Text) : List Binary64 :=
  [Scalar.ofNat (text.count 'x'), Scalar.ofNat (text.count 'y')]

theorem rank_threeLines_is_direct :
    ((threeLines.chunks.map Chunk.key).Nodup ∧ Similarity.Collisionless threeLines.chunks ∧
        ∀ f ∈ some letterCounts, ∃ dimension, ∀ text, (f text).length = dimension) ∧
      rank .standard (some (Provider.pointwise letterCounts)) threeLines ['x', 'a']
          Similarity.lateFirst =
        .ok (Direct.rank .standard (some letterCounts) threeLines.chunks ['x', 'a']) := by
  have hkeys : (threeLines.chunks.map Chunk.key).Nodup := by decide
  have hembed : ∀ f ∈ some letterCounts, ∃ dimension, ∀ text, (f text).length = dimension := by
    intro f hf
    cases hf
    exact ⟨2, fun _ => rfl⟩
  refine ⟨⟨hkeys, collisionless_threeLines, hembed⟩, ?_⟩
  exact (rank_is_direct .standard ['x', 'a']).1 threeLines (some letterCounts) Similarity.lateFirst hkeys
    collisionless_threeLines hembed

end CodeRetrieval.Retrieval
