/-
# CodeRetrieval.Proofs.EmbeddingFailure — what fails stays where it fails.

A query that cannot be embedded fails the whole attempt, and `QueryFails` lists the four ways in which it
can.  A batch of chunks that fails leaves the chunks it decides without a score and touches no other one:
the score of a chunk is read off the answer to one batch, the one that holds the text in its slot.  So
chunks that are decided by batches which two providers answer alike are scored alike by both, and a chunk
decided by a batch without a usable answer is ranked with the similarity of an absent one.
-/
import CodeRetrieval.Number.Binary64
import CodeRetrieval.Proofs.DirectRetrieval
import CodeRetrieval.Proofs.Ranking
import CodeRetrieval.Proofs.Similarity
import CodeRetrieval.Retrieval

namespace CodeRetrieval

variable {R : Type}

namespace Similarity

/-- The batches in which a query is sent. -/
def queryBatches (settings : EmbeddingSettings) (query : Text) : List (List Text) :=
  batches settings.batchSize (pieces settings query)

/-- The batches in which the texts of chunks are sent. -/
def chunkBatches (settings : EmbeddingSettings) (chunks : List Chunk) : List (List Text) :=
  batches settings.batchSize (distinctTexts chunks)

/-! ## The query -/

/-- The ways in which the batches of a query fail: one of them is answered with a failure, or all are
answered but the vectors are none, not as many as the pieces, or of several dimensions. -/
inductive QueryFails (settings : EmbeddingSettings) (provider : Provider R) (query : Text) :
    Failure → Prop
  | batch {front back : List (List Text)} {failing : List Text} {failure : Failure} :
      queryBatches settings query = front ++ failing :: back →
      (∀ batch ∈ front, ∃ vectors, provider batch = .ok vectors) →
      provider failing = .error failure →
      QueryFails settings provider query failure
  | noVector {answers : List (List (List R))} :
      (queryBatches settings query).map provider = answers.map .ok →
      answers.flatten = [] →
      QueryFails settings provider query (.embedding .noQueryVector)
  | wrongCount {answers : List (List (List R))} :
      (queryBatches settings query).map provider = answers.map .ok →
      answers.flatten ≠ [] → answers.flatten.length ≠ (pieces settings query).length →
      QueryFails settings provider query (.embedding .mixedQueryVectors)
  | mixedDimensions {answers : List (List (List R))} {v w : List R} :
      (queryBatches settings query).map provider = answers.map .ok →
      v ∈ answers.flatten → w ∈ answers.flatten → v.length ≠ w.length →
      QueryFails settings provider query (.embedding .mixedQueryVectors)

variable {settings : EmbeddingSettings} {provider provider' : Provider R} {query : Text}

theorem queryVectors_eq (settings : EmbeddingSettings) (provider : Provider R) (query : Text) :
    queryVectors settings provider query =
      ((queryBatches settings query).mapM provider).map List.flatten >>=
        checkQuery (pieces settings query) := rfl

/-- All batches of the query are answered: what is left to check are the vectors. -/
theorem queryVectors_of_answers {answers : List (List (List R))}
    (h : (queryBatches settings query).map provider = answers.map .ok) :
    queryVectors settings provider query = checkQuery (pieces settings query) answers.flatten := by
  rw [queryVectors_eq, mapM_eq_ok_iff.mpr h]
  rfl

theorem queryVectors_of_failure {failure : Failure}
    (h : (queryBatches settings query).mapM provider = .error failure) :
    queryVectors settings provider query = .error failure := by
  rw [queryVectors_eq, h]
  rfl

theorem queryVectors_eq_error_iff {failure : Failure} :
    queryVectors settings provider query = .error failure ↔
      QueryFails settings provider query failure := by
  constructor
  · intro h
    cases hsent : (queryBatches settings query).mapM provider with
    | error found =>
        rw [queryVectors_of_failure hsent, Except.error.injEq] at h
        obtain ⟨front, failing, back, hbatches, hfront, hfailing⟩ := mapM_eq_error_iff.mp hsent
        exact .batch hbatches hfront (h ▸ hfailing)
    | ok answers =>
        have hanswers := mapM_eq_ok_iff.mp hsent
        rw [queryVectors_of_answers hanswers, checkQuery_eq_error_iff] at h
        rcases h with ⟨hnil, rfl⟩ | ⟨hne, hlength | ⟨v, hv, w, hw, hmixed⟩, rfl⟩
        · exact .noVector hanswers hnil
        · exact .wrongCount hanswers hne hlength
        · exact .mixedDimensions hanswers hv hw hmixed
  · intro h
    cases h with
    | batch hbatches hfront hfailing =>
        apply queryVectors_of_failure
        exact mapM_eq_error_iff.mpr ⟨_, _, _, hbatches, hfront, hfailing⟩
    | noVector hanswers hnil =>
        rw [queryVectors_of_answers hanswers, checkQuery_eq_error_iff]
        exact .inl ⟨hnil, rfl⟩
    | wrongCount hanswers hne hlength =>
        rw [queryVectors_of_answers hanswers, checkQuery_eq_error_iff]
        exact .inr ⟨hne, .inl hlength, rfl⟩
    | mixedDimensions hanswers hv hw hmixed =>
        rw [queryVectors_of_answers hanswers, checkQuery_eq_error_iff]
        exact .inr ⟨List.ne_nil_of_mem hv, .inr ⟨_, hv, _, hw, hmixed⟩, rfl⟩

theorem queryVectors_congr
    (h : ∀ batch ∈ queryBatches settings query, provider batch = provider' batch) :
    queryVectors settings provider query = queryVectors settings provider' query := by
  rw [queryVectors_eq, queryVectors_eq, mapM_congr h]

/-! ## The batch that decides a chunk -/

/-- A batch decides the score of a chunk if it holds a text of the chunk's digest. -/
def Decides (batch : List Text) (chunk : Chunk) : Prop :=
  ∃ text ∈ batch, Chunk.digestOf text = chunk.digest

variable {chunks : List Chunk} {chunk : Chunk} {batch : List Text}

/-- The batch that holds the text in a chunk's slot. -/
def ownBatch (settings : EmbeddingSettings) (chunks : List Chunk) (chunk : Chunk) : List Text :=
  batchOf settings.batchSize (distinctTexts chunks) (slotOf chunks chunk)

theorem ownBatch_mem (settings : EmbeddingSettings) (h : chunk ∈ chunks) :
    ownBatch settings chunks chunk ∈ chunkBatches settings chunks :=
  batchOf_mem_batches (slotOf_lt_length h)

/-- A chunk is decided by its own batch and by no other. -/
theorem decides_iff (h : chunk ∈ chunks) (hbatch : batch ∈ chunkBatches settings chunks) :
    Decides batch chunk ↔ batch = ownBatch settings chunks chunk := by
  constructor
  · rintro ⟨text, htext, hdigest⟩
    obtain ⟨place, hplace, hown⟩ := exists_place_of_mem_batches hbatch htext
    unfold ownBatch
    rw [slotOf_eq_of_getElem? hplace hdigest, hown]
  · rintro rfl
    obtain ⟨text, htext, hdigest⟩ := exists_getElem?_slotOf h
    rw [← getElem?_batchOf settings.batchSize] at htext
    exact ⟨text, List.mem_of_getElem? htext, hdigest⟩

/-- If no two texts have one digest, a batch decides the chunks whose texts it holds. -/
theorem decides_iff_mem (hdigest : Collisionless chunks) (h : chunk ∈ chunks)
    (hbatch : batch ∈ chunkBatches settings chunks) : Decides batch chunk ↔ chunk.text ∈ batch := by
  constructor
  · rintro ⟨text, htext, hsame⟩
    have hmem : text ∈ distinctTexts chunks := by
      rw [← flatten_batches settings.batchSize (distinctTexts chunks)]
      exact List.mem_flatten_of_mem hbatch htext
    obtain ⟨c, hc, rfl⟩ := exists_chunk_of_mem_distinctTexts hmem
    exact hdigest c hc chunk h hsame ▸ htext
  · intro htext
    exact ⟨chunk.text, htext, rfl⟩

/-! ## Scores -/

variable [Scalar R] {scores : Lexical.Scores R} {schedules : Schedules}

/-- For a query that fails no batch of chunks is sent. -/
theorem QueryFails.sent_isPrefix {failure : Failure} (h : QueryFails settings provider query failure)
    (chunks : List Chunk) (schedules : Schedules) :
    sent settings provider query chunks schedules <+: queryBatches settings query := by
  unfold sent
  rw [attempt_of_error (queryVectors_eq_error_iff.mpr h)]
  exact provider.sent_embedAll_isPrefix _ _ _ _

/-- Scoring fails with the query and only with it. -/
theorem score_eq_error_iff {failure : Failure} :
    score settings provider query chunks schedules = .error failure ↔
      QueryFails settings provider query failure := by
  rw [score_eq, ← queryVectors_eq_error_iff]
  cases queryVectors settings provider query <;> simp [Except.map]

theorem exists_score_of_not_queryFails (h : ∀ failure, ¬ QueryFails settings provider query failure)
    (chunks : List Chunk) (schedules : Schedules) :
    ∃ scores, score settings provider query chunks schedules = .ok scores := by
  cases hscore : score settings provider query chunks schedules with
  | error failure => exact absurd (score_eq_error_iff.mp hscore) (h failure)
  | ok scores => exact ⟨scores, rfl⟩

/-- What is scored is scored for the vectors of the query. -/
theorem exists_query_of_score (h : score settings provider query chunks schedules = .ok scores) :
    ∃ q, queryVectors settings provider query = .ok q ∧
      scores = scoreChunks q.1 q.2 chunks
        (provider.entriesOf settings.batchSize (distinctTexts chunks)) := by
  rw [score_eq] at h
  cases hquery : queryVectors settings provider query with
  | error => simp [hquery, Except.map] at h
  | ok q =>
      rw [hquery] at h
      exact ⟨q, rfl, (Except.ok.inj h).symm⟩

/-- The score of a chunk with a key of its own is read off the answer to its own batch. -/
theorem getElem?_score (settings : EmbeddingSettings) (provider : Provider R) (query : Text)
    (hkeys : (chunks.map Chunk.key).Nodup) (h : chunk ∈ chunks) (schedules : Schedules) :
    (score settings provider query chunks schedules).map (·[chunk.key]?) =
      (queryVectors settings provider query).map fun q => scoreOf q.1 q.2
        (provider.answer settings.batchSize (distinctTexts chunks) (slotOf chunks chunk)) := by
  rw [score_eq]
  cases queryVectors settings provider query with
  | error => rfl
  | ok q =>
      simp only [Except.map]
      rw [getElem?_scoreChunks, findSome?_key hkeys h]

/-- Two providers that answer the query and the chunk's own batch alike score the chunk alike. -/
theorem getElem?_score_congr (hkeys : (chunks.map Chunk.key).Nodup) (h : chunk ∈ chunks)
    (hquery : ∀ batch ∈ queryBatches settings query, provider batch = provider' batch)
    (hown : provider (ownBatch settings chunks chunk) = provider' (ownBatch settings chunks chunk))
    (schedules schedules' : Schedules) :
    (score settings provider query chunks schedules).map (·[chunk.key]?) =
      (score settings provider' query chunks schedules').map (·[chunk.key]?) := by
  rw [getElem?_score settings provider query hkeys h, getElem?_score settings provider' query hkeys h,
    queryVectors_congr hquery, Provider.answer_congr hown]

/-- Chunks whose batches have no usable answers leave no score under their key. -/
theorem getElem?_score_of_not_usable (hscore : score settings provider query chunks schedules = .ok scores)
    {key : Text}
    (h : ∀ c ∈ chunks, c.key = key → provider.usable (ownBatch settings chunks c) = none) :
    scores[key]? = none := by
  obtain ⟨q, _, rfl⟩ := exists_query_of_score hscore
  rw [getElem?_scoreChunks, List.findSome?_eq_none_iff]
  intro c hc
  by_cases hkey : c.key = key
  · rw [if_pos hkey, Provider.answer_of_not_usable (h c hc hkey), scoreOf_none]
  · exact if_neg hkey

end Similarity

namespace Retrieval

open Lexical (Scores)
open Similarity (chunkBatches queryBatches Decides QueryFails)

variable [Scalar R] {settings : Settings R} {provider : Provider R} {corpus : Corpus} {query : Text}

/-! ## Rankings -/

/-- The best chunks of a ranking of all of them, in which those without a usable answer to their batch
have the similarity of an absent one. -/
theorem exists_ranking (hkeys : (corpus.chunks.map Chunk.key).Nodup)
    (hquery : ∀ failure, ¬ QueryFails settings.embedding provider query failure)
    (schedules : Similarity.Schedules) :
    ∃ scores ranking,
      Similarity.score settings.embedding provider query corpus.chunks schedules = .ok scores ∧
      Ranking.Ranks settings.rank (keywordScores settings corpus query) scores corpus.chunks ranking ∧
      rank settings (some provider) corpus query schedules = .ok (ranking.take settings.rank.topK) ∧
      ∀ entry ∈ ranking, ∀ batch ∈ chunkBatches settings.embedding corpus.chunks,
        Decides batch entry.chunk → provider.usable batch = none →
        entry.similarity = settings.rank.absentSimilarity := by
  obtain ⟨scores, hscore⟩ :=
    Similarity.exists_score_of_not_queryFails hquery corpus.chunks schedules
  obtain ⟨ranking, hranks, hselect⟩ := Ranking.exists_ranks settings.rank
    (keywordScores settings corpus query) scores corpus.chunks
  refine ⟨scores, ranking, hscore, hranks, ?_, ?_⟩
  · have hsimilarity : similarityScores settings (some provider) corpus query schedules = .ok scores :=
      hscore
    rw [rank_of_similarityScores hsimilarity, hselect]
  · intro entry hentry batch hbatch hdecides husable
    have hmem : entry.chunk ∈ corpus.chunks :=
      hranks.complete.mem_iff.mp (List.mem_map_of_mem hentry)
    rw [Similarity.decides_iff hmem hbatch] at hdecides
    -- no other chunk has the entry's key, so what stands under it comes from this batch alone
    have hnone : scores[entry.chunk.key]? = none := by
      apply Similarity.getElem?_score_of_not_usable hscore
      intro c hc hkey
      rw [List.inj_on_of_nodup_map hkeys hc hmem hkey, ← hdecides]
      exact husable
    rw [hranks.rated entry hentry]
    exact Ranking.rate_similarity_of_none hnone

/-- Without one usable answer to a batch of chunks the ranking is that of the keywords. -/
theorem rank_of_no_usable (hquery : ∀ failure, ¬ QueryFails settings.embedding provider query failure)
    (h : ∀ batch ∈ chunkBatches settings.embedding corpus.chunks, provider.usable batch = none)
    (schedules : Similarity.Schedules) :
    rank settings (some provider) corpus query schedules = rank settings none corpus query := by
  obtain ⟨scores, hscore⟩ :=
    Similarity.exists_score_of_not_queryFails hquery corpus.chunks schedules
  have hsimilarity : similarityScores settings (some provider) corpus query schedules = .ok scores :=
    hscore
  have hempty : similarityScores settings none corpus query = .ok (∅ : Scores R) := rfl
  rw [rank_of_similarityScores hsimilarity, rank_of_similarityScores hempty]
  congr 1
  apply Ranking.select_congr
  intro chunk _
  rw [Std.HashMap.getElem?_empty]
  apply Similarity.getElem?_score_of_not_usable hscore
  intro c hc _
  exact h _ (Similarity.ownBatch_mem settings.embedding hc)

/-- Failures of embedding stay local.

Whatever a provider answers, there is one entry for every text: the vector at its offset in the answer to
its own batch, if that answer has as many vectors as the batch has texts, and nothing otherwise.  Scoring
fails if the query fails and only then, and in that case no batch of chunks is sent.  If the keys of the
chunks differ, two providers that agree on the query and on all batches of chunks but some give one result
for every chunk that none of these batches decides, which without colliding digests are the chunks whose
text is in none of them.  If the query does not fail, all chunks are ranked; those whose batch has no
usable answer have the similarity of an absent one, and if no batch has one, the ranking is that without
a provider.  All of this is so however many batches are under way, and whenever they are answered. -/
theorem embedding_failures_stay_local (settings : Settings R) (provider : Provider R) (query : Text) :
    (∀ size width texts schedule,
      (provider.embedTexts size width texts schedule).result.length = texts.length ∧
      ∀ place < texts.length, ∃ batch, (batches size texts)[place / max size 1]? = some batch ∧
        batch[place % max size 1]? = texts[place]? ∧
        (provider.embedTexts size width texts schedule).result[place]? =
          some ((provider.usable batch).bind (·[place % max size 1]?))) ∧
    (∀ chunks failure schedules,
      (Similarity.score settings.embedding provider query chunks schedules = .error failure ↔
        QueryFails settings.embedding provider query failure) ∧
      (QueryFails settings.embedding provider query failure →
        Similarity.sent settings.embedding provider query chunks schedules <+:
          queryBatches settings.embedding query)) ∧
    ∀ (corpus : Corpus) (schedules : Similarity.Schedules), (corpus.chunks.map Chunk.key).Nodup →
      (∀ (provider' : Provider R) (schedules' : Similarity.Schedules) (excepted : List Text → Prop),
        (∀ batch ∈ queryBatches settings.embedding query, provider batch = provider' batch) →
        (∀ batch ∈ chunkBatches settings.embedding corpus.chunks, ¬ excepted batch →
          provider batch = provider' batch) →
        ∀ chunk ∈ corpus.chunks,
          (∀ batch ∈ chunkBatches settings.embedding corpus.chunks, excepted batch →
            ¬ Decides batch chunk) →
          (Similarity.score settings.embedding provider query corpus.chunks schedules).map
              (·[chunk.key]?) =
            (Similarity.score settings.embedding provider' query corpus.chunks schedules').map
              (·[chunk.key]?)) ∧
      (Similarity.Collisionless corpus.chunks → ∀ chunk ∈ corpus.chunks,
        ∀ batch ∈ chunkBatches settings.embedding corpus.chunks,
          Decides batch chunk ↔ chunk.text ∈ batch) ∧
      ((∀ failure, ¬ QueryFails settings.embedding provider query failure) →
        (∃ scores ranking,
          Similarity.score settings.embedding provider query corpus.chunks schedules = .ok scores ∧
          Ranking.Ranks settings.rank (keywordScores settings corpus query) scores corpus.chunks
            ranking ∧
          rank settings (some provider) corpus query schedules =
            .ok (ranking.take settings.rank.topK) ∧
          ∀ entry ∈ ranking, ∀ batch ∈ chunkBatches settings.embedding corpus.chunks,
            Decides batch entry.chunk → provider.usable batch = none →
            entry.similarity = settings.rank.absentSimilarity) ∧
        ((∀ batch ∈ chunkBatches settings.embedding corpus.chunks, provider.usable batch = none) →
          rank settings (some provider) corpus query schedules = rank settings none corpus query)) := by
  refine ⟨?_, ?_, ?_⟩
  · intro size width texts schedule
    rw [provider.result_embedTexts]
    refine ⟨provider.length_entriesOf size texts, ?_⟩
    intro place hplace
    exact ⟨batchOf size texts place, getElem?_batches hplace, getElem?_batchOf size texts place,
      provider.getElem?_entriesOf size hplace⟩
  · intro chunks failure schedules
    exact ⟨Similarity.score_eq_error_iff, fun h => h.sent_isPrefix chunks schedules⟩
  · intro corpus schedules hkeys
    refine ⟨?_, ?_, ?_⟩
    · intro provider' schedules' excepted hquery hchunks chunk hchunk hspared
      have hmem := Similarity.ownBatch_mem settings.embedding hchunk
      have hown := hchunks _ hmem fun hexcepted =>
        hspared _ hmem hexcepted ((Similarity.decides_iff hchunk hmem).mpr rfl)
      exact Similarity.getElem?_score_congr hkeys hchunk hquery hown schedules schedules'
    · intro hdigest chunk hchunk batch hbatch
      exact Similarity.decides_iff_mem hdigest hchunk hbatch
    · intro hquery
      exact ⟨exists_ranking hkeys hquery schedules, fun h => rank_of_no_usable hquery h schedules⟩

/-- Every text is sent on its own. -/
def oneByOne : Settings Binary64 :=
  { Settings.standard with embedding := { EmbeddingSettings.standard with batchSize := 1 } }

/-- The vectors of `letterCounts`, with no answer to some batches. -/
def downFor (down : List (List Text)) : Provider Binary64 := fun batch =>
  if down.contains batch then .error (.embedding .unreachable) else Provider.pointwise letterCounts batch

theorem queryBatches_oneByOne : queryBatches oneByOne.embedding ['x'] = [[['x']]] := by
  have hpieces : Similarity.pieces oneByOne.embedding ['x'] = [['x']] := rfl
  unfold queryBatches
  rw [hpieces]
  simp [batches]

theorem chunkBatches_threeLines :
    chunkBatches oneByOne.embedding threeLines.chunks = [[['x', 'a']], [['y', 'b']]] := by
  have htexts : Similarity.distinctTexts threeLines.chunks = [['x', 'a'], ['y', 'b']] := by
    rw [Similarity.distinctTexts_eq_eraseDups collisionless_threeLines]
    decide
  have hsize : oneByOne.embedding.batchSize = 1 := rfl
  unfold chunkBatches
  rw [htexts, hsize]
  simp [batches]

theorem downFor_of_mem {down : List (List Text)} {batch : List Text} (h : batch ∈ down) :
    downFor down batch = .error (.embedding .unreachable) :=
  if_pos (List.contains_iff_mem.mpr h)

theorem downFor_of_not_mem {down : List (List Text)} {batch : List Text} (h : batch ∉ down) :
    downFor down batch = Provider.pointwise letterCounts batch :=
  if_neg fun hmem => h (List.contains_iff_mem.mp hmem)

theorem usable_downFor {down : List (List Text)} {batch : List Text} (h : batch ∈ down) :
    (downFor down).usable batch = none := by
  unfold Provider.usable
  rw [downFor_of_mem h]

/-- The query does not fail if its one batch is answered. -/
theorem not_queryFails_downFor {down : List (List Text)} (h : [['x']] ∉ down) (failure : Failure) :
    ¬ QueryFails oneByOne.embedding (downFor down) ['x'] failure := by
  have hanswered : ∀ batch ∈ queryBatches oneByOne.embedding ['x'],
      downFor down batch = Provider.pointwise letterCounts batch := by
    rw [queryBatches_oneByOne, List.forall_mem_singleton]
    exact downFor_of_not_mem h
  have hdimension : ∀ piece ∈ Similarity.pieces oneByOne.embedding ['x'],
      (letterCounts piece).length = 2 := fun _ _ => rfl
  rw [← Similarity.queryVectors_eq_error_iff, Similarity.queryVectors_congr hanswered,
    Similarity.queryVectors_pointwise,
    Similarity.checkQuery_map hdimension (Similarity.pieces_ne_nil _ _)]
  exact fun h => nomatch h

/-- A provider that is down for the second of three lines, for all of them, and for the query. -/
theorem failures_of_threeLines_stay_local :
    let second : List Text := [['y', 'b']]
    let lines : List (List Text) := [[['x', 'a']], second]
    let late := Similarity.lateFirst.chunks
    (threeLines.chunks.map Chunk.key).Nodup ∧ Similarity.Collisionless threeLines.chunks ∧
      ((downFor [second]).embedTexts 1 2 [['x', 'a'], ['y', 'b'], ['y']] late).result[1]? =
        some none ∧
      (∀ chunk ∈ threeLines.chunks, chunk.text ≠ ['y', 'b'] →
        (Similarity.score oneByOne.embedding (downFor [second]) ['x'] threeLines.chunks
            Similarity.lateFirst).map
            (·[chunk.key]?) =
          (Similarity.score oneByOne.embedding (downFor []) ['x'] threeLines.chunks).map
            (·[chunk.key]?)) ∧
      (∃ ranking : List (Ranked Binary64), (ranking.map Ranked.chunk).Perm threeLines.chunks ∧
        rank oneByOne (some (downFor [second])) threeLines ['x'] Similarity.lateFirst =
          .ok (ranking.take oneByOne.rank.topK) ∧
        ∀ entry ∈ ranking, entry.chunk.text = ['y', 'b'] →
          entry.similarity = oneByOne.rank.absentSimilarity) ∧
      rank oneByOne (some (downFor lines)) threeLines ['x'] Similarity.lateFirst =
        rank oneByOne none threeLines ['x'] ∧
      Similarity.score oneByOne.embedding (downFor [[['x']]]) ['x'] threeLines.chunks =
        .error (.embedding .unreachable) ∧
      Similarity.sent oneByOne.embedding (downFor [[['x']]]) ['x'] threeLines.chunks <+: [[['x']]] := by
  intro second lines late
  have hkeys : (threeLines.chunks.map Chunk.key).Nodup := by decide
  have hsecond : second ∈ chunkBatches oneByOne.embedding threeLines.chunks := by
    rw [chunkBatches_threeLines]
    exact List.mem_cons_of_mem _ List.mem_cons_self
  obtain ⟨hentries, -, hlocal⟩ := embedding_failures_stay_local oneByOne (downFor [second]) ['x']
  obtain ⟨hspared, hdecides, hranked⟩ := hlocal threeLines Similarity.lateFirst hkeys
  have hdecides := hdecides collisionless_threeLines
  refine ⟨hkeys, collisionless_threeLines, ?_, ?_, ?_, ?_, ?_⟩
  · obtain ⟨batch, hbatch, -, hentry⟩ :=
      (hentries 1 2 [['x', 'a'], ['y', 'b'], ['y']] late).2 1 (by decide)
    have hown : batch = second := by simpa [batches, eq_comm] using hbatch
    rw [hentry, hown, usable_downFor List.mem_cons_self]
    rfl
  · intro chunk hchunk htext
    refine hspared (downFor []) .inTurn (· = second) ?_ ?_ chunk hchunk ?_
    · rw [queryBatches_oneByOne, List.forall_mem_singleton, downFor_of_not_mem (by decide),
        downFor_of_not_mem (by decide)]
    · intro batch _ hspare
      rw [downFor_of_not_mem (by simpa using hspare), downFor_of_not_mem List.not_mem_nil]
    · rintro batch hbatch rfl
      rw [hdecides chunk hchunk _ hbatch]
      simpa [second] using htext
  · obtain ⟨⟨scores, ranking, -, hranks, hrank, habsent⟩, -⟩ :=
      hranked (not_queryFails_downFor (by decide))
    refine ⟨ranking, hranks.complete, hrank, ?_⟩
    intro entry hentry htext
    have hmem := hranks.complete.mem_iff.mp (List.mem_map_of_mem hentry)
    refine habsent entry hentry second hsecond ?_ (usable_downFor List.mem_cons_self)
    rw [hdecides entry.chunk hmem second hsecond, htext]
    exact List.mem_cons_self
  · have hdown := ((embedding_failures_stay_local oneByOne (downFor lines) ['x']).2.2 threeLines
      Similarity.lateFirst hkeys).2.2 (not_queryFails_downFor (by decide))
    apply hdown.2
    rw [chunkBatches_threeLines]
    exact fun batch => usable_downFor
  · have hfails : QueryFails oneByOne.embedding (downFor [[['x']]]) ['x'] (.embedding .unreachable) :=
      .batch (queryBatches_oneByOne.trans (List.nil_append _).symm) (by simp)
        (downFor_of_mem List.mem_cons_self)
    obtain ⟨hscore, hsent⟩ := (embedding_failures_stay_local oneByOne (downFor [[['x']]]) ['x']).2.1
      threeLines.chunks (.embedding .unreachable) .inTurn
    rw [queryBatches_oneByOne] at hsent
    exact ⟨hscore.mpr hfails, hsent hfails⟩

end Retrieval

end CodeRetrieval
