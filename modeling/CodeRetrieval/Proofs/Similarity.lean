/-
# CodeRetrieval.Proofs.Similarity — similarities without batches and slots.

A query is embedded first; if its vectors can be used, every chunk is scored by the entry that the text
in its slot gets.  The score under a key is that of the first chunk with this key that has one.  A
pointwise provider answers every text on its own, so batches leave no trace in its answers, and if texts
of one digest are equal, slots leave none either: the score of a chunk is the mean of the cosines of its
own vector.
-/
import CodeRetrieval.Number.Binary64
import CodeRetrieval.Proofs.Embedding
import CodeRetrieval.Proofs.QueryPieces
import CodeRetrieval.Proofs.Slots

namespace CodeRetrieval

variable {R : Type}

/-! ## Pointwise providers -/

namespace Provider

/-- The provider that answers every text on its own. -/
def pointwise (embed : Text → List R) : Provider R := fun texts => .ok (texts.map embed)

theorem mapM_pointwise (embed : Text → List R) (batches : List (List Text)) :
    batches.mapM (pointwise embed) = .ok (batches.map (List.map embed)) :=
  List.mapM_pure

theorem sent_embedAll_pointwise (embed : Text → List R) (size width : Nat) (texts : List Text)
    (schedule : Buffer.Schedule) :
    ((pointwise embed).embedAll size width texts schedule).sent = batches size texts :=
  sent_embedAll_of_ok fun batch _ => ⟨batch.map embed, rfl⟩

theorem entriesOf_pointwise (embed : Text → List R) (size : Nat) (texts : List Text) :
    (pointwise embed).entriesOf size texts = texts.map fun text => some (embed text) := by
  have hbatch : (fun batch => entries batch (pointwise embed batch)) =
      List.map fun text => some (embed text) := by
    funext batch
    show (if (batch.map embed).length = batch.length then (batch.map embed).map some
      else List.replicate batch.length none) = _
    rw [if_pos (List.length_map _), List.map_map]
    rfl
  unfold entriesOf
  rw [hbatch, List.flatMap_def, ← List.map_flatten, flatten_batches]

end Provider

namespace Similarity

open Lexical (Scores)

/-! ## The query -/

theorem pieces_ne_nil (settings : EmbeddingSettings) (query : Text) : pieces settings query ≠ [] := by
  unfold pieces QueryPieces.split
  split
  · exact List.cons_ne_nil _ _
  · rw [ne_eq, List.map_eq_nil_iff]
    exact QueryPieces.ofLines_ne_nil _ _ (Text.split_ne_nil _ _)

/-- Vectors of one dimension pass the check. -/
theorem checkQuery_map {embed : Text → List R} {dimension : Nat} {pieces : List Text}
    (h : ∀ piece ∈ pieces, (embed piece).length = dimension) (hne : pieces ≠ []) :
    checkQuery pieces (pieces.map embed) = .ok (dimension, pieces.map embed) := by
  cases pieces with
  | nil => exact absurd rfl hne
  | cons piece pieces =>
      rw [List.forall_mem_cons] at h
      unfold checkQuery
      simpa [h.1] using h.2

/-- The check fails where there is no vector, where there are not as many as pieces, and where two
differ in dimension. -/
theorem checkQuery_eq_error_iff {pieces : List Text} {vectors : List (List R)} {failure : Failure} :
    checkQuery pieces vectors = .error failure ↔
      vectors = [] ∧ failure = .embedding .noQueryVector ∨
      vectors ≠ [] ∧ (vectors.length ≠ pieces.length ∨
        ∃ v ∈ vectors, ∃ w ∈ vectors, v.length ≠ w.length) ∧
        failure = .embedding .mixedQueryVectors := by
  cases vectors with
  | nil => simp [checkQuery, eq_comm]
  | cons first rest =>
      have hmixed : (∃ v ∈ first :: rest, ∃ w ∈ first :: rest, v.length ≠ w.length) ↔
          ∃ v ∈ first :: rest, v.length ≠ first.length := by
        constructor
        · rintro ⟨v, hv, w, hw, hne⟩
          by_cases hsame : v.length = first.length
          · exact ⟨w, hw, fun hw => hne (hsame.trans hw.symm)⟩
          · exact ⟨v, hv, hsame⟩
        · rintro ⟨v, hv, hne⟩
          exact ⟨v, hv, first, List.mem_cons_self, hne⟩
      have hcheck : checkQuery pieces (first :: rest) =
          if (first :: rest).length ≠ pieces.length ∨ ∃ v ∈ first :: rest, v.length ≠ first.length then
            .error (.embedding .mixedQueryVectors) else .ok (first.length, first :: rest) := by
        simp [checkQuery]
      rw [hcheck, hmixed]
      split
      · simp_all [eq_comm]
      · simp_all

/-- Vectors of several dimensions do not. -/
theorem checkQuery_map_of_mixed {embed : Text → List R} {pieces : List Text}
    (h : ¬ ∃ dimension, ∀ piece ∈ pieces, (embed piece).length = dimension) :
    checkQuery pieces (pieces.map embed) = .error (.embedding .mixedQueryVectors) := by
  cases pieces with
  | nil => exact absurd ⟨0, by simp⟩ h
  | cons piece pieces =>
      have hother : ∃ other ∈ piece :: pieces, (embed other).length ≠ (embed piece).length := by
        by_contra hnone
        exact h ⟨(embed piece).length, by simpa using hnone⟩
      obtain ⟨other, hmem, hne⟩ := hother
      refine checkQuery_eq_error_iff.mpr (.inr ⟨List.cons_ne_nil _ _, .inr ?_, rfl⟩)
      exact ⟨embed other, List.mem_map_of_mem hmem, embed piece, List.mem_cons_self, hne⟩

/-- The vectors of the pieces of a query, with their dimension. -/
def queryVectors (settings : EmbeddingSettings) (provider : Provider R) (query : Text) :
    Except Failure (Nat × List (List R)) :=
  ((batches settings.batchSize (pieces settings query)).mapM provider).map List.flatten >>=
    checkQuery (pieces settings query)

theorem queryVectors_pointwise (settings : EmbeddingSettings) (embed : Text → List R) (query : Text) :
    queryVectors settings (Provider.pointwise embed) query =
      checkQuery (pieces settings query) ((pieces settings query).map embed) := by
  unfold queryVectors
  rw [Provider.mapM_pointwise]
  show checkQuery _ ((batches _ _).map (List.map embed)).flatten = _
  rw [← List.map_flatten, flatten_batches]

/-- A pointwise provider gives every chunk the vector of its own text. -/
theorem answer_slotOf_pointwise (embed : Text → List R) (size : Nat) {chunks : List Chunk}
    (hdigest : Collisionless chunks) {chunk : Chunk} (hmem : chunk ∈ chunks) :
    (Provider.pointwise embed).answer size (distinctTexts chunks) (slotOf chunks chunk) =
      some (embed chunk.text) := by
  have hentry := (Provider.pointwise embed).getElem?_entriesOf size (slotOf_lt_length hmem)
  rw [Provider.entriesOf_pointwise, List.getElem?_map, getElem?_slotOf hdigest hmem] at hentry
  exact (Option.some.inj hentry).symm

/-! ## Scores -/

variable [Scalar R] {settings : EmbeddingSettings} {provider : Provider R} {query : Text}
  {chunks : List Chunk} {chunk : Chunk} {dimension : Nat}

/-- For a query without vectors no batch of chunks is sent. -/
theorem attempt_of_error {failure : Failure} (h : queryVectors settings provider query = .error failure)
    (chunks : List Chunk) (schedules : Schedules) :
    attempt settings provider query chunks schedules =
      ⟨(provider.embedAll settings.batchSize settings.concurrency (pieces settings query)
        schedules.query).sent, .error failure⟩ := by
  unfold queryVectors at h
  unfold attempt
  dsimp only
  rw [Provider.result_embedAll, h]

/-- Once the query has vectors every batch of chunks is sent and the chunks are scored. -/
theorem attempt_of_ok {vectors : List (List R)}
    (h : queryVectors settings provider query = .ok (dimension, vectors)) (chunks : List Chunk)
    (schedules : Schedules) :
    attempt settings provider query chunks schedules =
      ⟨(provider.embedAll settings.batchSize settings.concurrency (pieces settings query)
          schedules.query).sent ++ batches settings.batchSize (distinctTexts chunks),
        .ok (scoreChunks dimension vectors chunks
          (provider.entriesOf settings.batchSize (distinctTexts chunks)))⟩ := by
  unfold queryVectors at h
  unfold attempt
  dsimp only
  rw [Provider.result_embedAll, h]
  simp only [Provider.sent_embedTexts, Provider.result_embedTexts]

/-- Chunks are scored once the query has vectors, and not otherwise. -/
theorem score_eq (settings : EmbeddingSettings) (provider : Provider R) (query : Text)
    (chunks : List Chunk) (schedules : Schedules) :
    score settings provider query chunks schedules =
      (queryVectors settings provider query).map fun q => scoreChunks q.1 q.2 chunks
        (provider.entriesOf settings.batchSize (distinctTexts chunks)) := by
  unfold score
  cases h : queryVectors settings provider query with
  | error failure =>
      rw [attempt_of_error h]
      rfl
  | ok q =>
      rw [attempt_of_ok h]
      rfl

/-- The score of a chunk with a vector or without one. -/
def scoreOf (dimension : Nat) (query : List (List R)) (vector : Option (List R)) : Option R :=
  (vector.filter (·.length = dimension)).map (meanCosine query)

@[simp]
theorem scoreOf_none (dimension : Nat) (query : List (List R)) :
    scoreOf dimension query none = none := rfl

theorem scoreOf_some (dimension : Nat) (query : List (List R)) (vector : List R) :
    scoreOf dimension query (some vector) =
      if vector.length = dimension then some (meanCosine query vector) else none := by
  unfold scoreOf
  rw [Option.filter_some]
  by_cases h : vector.length = dimension <;> simp [h]

theorem getElem?_record (dimension : Nat) (query : List (List R)) (scores : Scores R)
    (chunk : Chunk) (vector : Option (List R)) (key : Text) :
    (record dimension query scores (chunk, vector))[key]? =
      scores[key]?.or (if chunk.key = key then scoreOf dimension query vector else none) := by
  unfold record
  cases vector with
  | none => simp
  | some vector =>
      simp only
      rw [scoreOf_some]
      by_cases hdimension : vector.length = dimension
      · rw [if_pos hdimension, if_pos hdimension, Std.HashMap.getElem?_insertIfNew]
        by_cases hkey : chunk.key = key
        · subst hkey
          by_cases hmem : chunk.key ∈ scores <;> simp [hmem]
        · simp [hkey]
      · rw [if_neg hdimension, if_neg hdimension]
        simp

/-- Of the chunks with one key the first one that has a score is recorded. -/
theorem getElem?_foldl_record (dimension : Nat) (query : List (List R))
    (vector : Chunk → Option (List R)) (chunks : List Chunk) (scores : Scores R) (key : Text) :
    ((chunks.zip (chunks.map vector)).foldl (record dimension query) scores)[key]? =
      scores[key]?.or (chunks.findSome? fun c =>
        if c.key = key then scoreOf dimension query (vector c) else none) := by
  induction chunks generalizing scores with
  | nil => simp
  | cons c chunks ih =>
      rw [List.map_cons, List.zip_cons_cons, List.foldl_cons, ih, getElem?_record, Option.or_assoc,
        List.findSome?_cons]
      cases (if c.key = key then scoreOf dimension query (vector c) else none) <;> rfl

/-- A chunk is scored by the entry of the text in its slot. -/
theorem getElem?_scoreChunks (provider : Provider R) (size dimension : Nat)
    (query : List (List R)) (chunks : List Chunk) (key : Text) :
    (scoreChunks dimension query chunks (provider.entriesOf size (distinctTexts chunks)))[key]? =
      chunks.findSome? fun c => if c.key = key then
        scoreOf dimension query
          (provider.answer size (distinctTexts chunks) (slotOf chunks c)) else none := by
  have hvectors : (chunkSlots chunks).map (fun slot =>
      ((provider.entriesOf size (distinctTexts chunks)).toArray[slot]?).join) =
      chunks.map fun c => provider.answer size (distinctTexts chunks) (slotOf chunks c) := by
    rw [chunkSlots_eq, List.map_map, List.map_inj_left]
    intro c hc
    show (((provider.entriesOf size (distinctTexts chunks)).toArray)[slotOf chunks c]?).join = _
    rw [List.getElem?_toArray, provider.getElem?_entriesOf size (slotOf_lt_length hc)]
    rfl
  unfold scoreChunks
  simp only
  rw [hvectors, getElem?_foldl_record, Std.HashMap.getElem?_empty, Option.none_or]

/-- What is found under a key that one chunk alone has is found for this chunk. -/
theorem findSome?_key {S : Type} (hkeys : (chunks.map Chunk.key).Nodup) (hmem : chunk ∈ chunks)
    (found : Chunk → Option S) :
    (chunks.findSome? fun c => if c.key = chunk.key then found c else none) = found chunk := by
  induction chunks with
  | nil => cases hmem
  | cons c chunks ih =>
      rw [List.map_cons, List.nodup_cons] at hkeys
      rw [List.findSome?_cons]
      rcases List.mem_cons.mp hmem with rfl | hmem
      · have hothers : (chunks.findSome? fun c => if c.key = chunk.key then found c else none) =
            none := by
          rw [List.findSome?_eq_none_iff]
          intro other hother
          exact if_neg fun hkey => hkeys.1 (List.mem_map.mpr ⟨other, hother, hkey⟩)
        rw [if_pos rfl, hothers]
        cases found chunk <;> rfl
      · rw [if_neg fun hkey => hkeys.1 (List.mem_map.mpr ⟨chunk, hmem, hkey.symm⟩)]
        exact ih hkeys.2 hmem

/-! ## Scores of a pointwise provider -/

/-- With a pointwise provider of one dimension every chunk of a key of its own has the mean cosine of its
own text. -/
theorem getElem?_score_pointwise (settings : EmbeddingSettings) {embed : Text → List R}
    {dimension : Nat} (hdimension : ∀ text, (embed text).length = dimension) (query : Text)
    {chunks : List Chunk} (hkeys : (chunks.map Chunk.key).Nodup) (hdigest : Collisionless chunks)
    (schedules : Schedules) :
    ∃ scores, score settings (Provider.pointwise embed) query chunks schedules = .ok scores ∧
      ∀ chunk ∈ chunks, scores[chunk.key]? =
        some (meanCosine ((pieces settings query).map embed) (embed chunk.text)) := by
  refine ⟨scoreChunks dimension ((pieces settings query).map embed) chunks
    ((Provider.pointwise embed).entriesOf settings.batchSize (distinctTexts chunks)), ?_, ?_⟩
  · rw [score_eq, queryVectors_pointwise,
      checkQuery_map (fun piece _ => hdimension piece) (pieces_ne_nil settings query)]
    rfl
  · intro chunk hmem
    rw [getElem?_scoreChunks, findSome?_key hkeys hmem, answer_slotOf_pointwise embed _ hdigest hmem]
    rw [scoreOf_some, if_pos (hdimension chunk.text)]

/-- Under a key stands the score of the first chunk with this key and a vector of the right dimension. -/
theorem getElem?_scoreChunks_pointwise (embed : Text → List R) (size dimension : Nat)
    (query : List (List R)) {chunks : List Chunk} (hdigest : Collisionless chunks) (key : Text) :
    (scoreChunks dimension query chunks
        ((Provider.pointwise embed).entriesOf size (distinctTexts chunks)))[key]? =
      (chunks.find? fun c => c.key = key ∧ (embed c.text).length = dimension).map fun c =>
        meanCosine query (embed c.text) := by
  rw [getElem?_scoreChunks, List.find?_eq_findSome?_guard, List.map_findSome?, ← List.head?_filterMap,
    ← List.head?_filterMap]
  congr 1
  apply List.filterMap_congr
  intro c hc
  rw [answer_slotOf_pointwise embed size hdigest hc, scoreOf_some, Function.comp_apply,
    Option.guard_apply]
  by_cases hkey : c.key = key
  · by_cases hdimension : (embed c.text).length = dimension <;> simp [hkey, hdimension]
  · simp [hkey]

/-- A pointwise provider's similarities are read off the chunks one by one.  If its vectors of the query's
pieces have one dimension, the score under a key is the mean cosine of the first chunk with this key whose
vector has that dimension, and no other key has a score; every text of a chunk is sent once, in the order
of the chunks and in batches as asked for.  Otherwise there is a failure, and only the query is sent.
None of the scores depends on the size of batches, on how many are under way at a time, or on when they
are answered. -/
theorem score_pointwise_is_direct (settings : EmbeddingSettings) (embed : Text → List R)
    (query : Text) {chunks : List Chunk} (hdigest : Collisionless chunks) (schedules : Schedules) :
    (∀ dimension, (∀ piece ∈ pieces settings query, (embed piece).length = dimension) →
      (∃ scores, score settings (Provider.pointwise embed) query chunks schedules = .ok scores ∧
        ∀ key, scores[key]? =
          (chunks.find? fun c => c.key = key ∧ (embed c.text).length = dimension).map fun c =>
            Scalar.mean ((pieces settings query).map fun piece =>
              cosine (embed piece) (embed c.text))) ∧
      ∃ chunkBatches, sent settings (Provider.pointwise embed) query chunks schedules =
          batches settings.batchSize (pieces settings query) ++ chunkBatches ∧
        chunkBatches.flatten = (chunks.map Chunk.text).eraseDups ∧ chunkBatches.flatten.Nodup ∧
        ∀ batch ∈ chunkBatches, batch ≠ [] ∧ batch.length ≤ max settings.batchSize 1) ∧
    ((¬ ∃ dimension, ∀ piece ∈ pieces settings query, (embed piece).length = dimension) →
      (∃ fault, score settings (Provider.pointwise embed) query chunks schedules =
        .error (.embedding fault)) ∧
      sent settings (Provider.pointwise embed) query chunks schedules =
        batches settings.batchSize (pieces settings query)) ∧
    ∀ (settings' : EmbeddingSettings) (schedules' : Schedules),
      settings'.queryTokenLimit = settings.queryTokenLimit →
      score settings' (Provider.pointwise embed) query chunks schedules' =
        score settings (Provider.pointwise embed) query chunks schedules := by
  refine ⟨?_, ?_, ?_⟩
  · intro dimension hdimension
    have hvectors := (queryVectors_pointwise settings embed query).trans
      (checkQuery_map hdimension (pieces_ne_nil settings query))
    refine ⟨⟨scoreChunks dimension ((pieces settings query).map embed) chunks
      ((Provider.pointwise embed).entriesOf settings.batchSize (distinctTexts chunks)), ?_, ?_⟩, ?_⟩
    · rw [score_eq, hvectors]
      rfl
    · intro key
      rw [getElem?_scoreChunks_pointwise embed _ _ _ hdigest]
      unfold meanCosine
      simp only [List.map_map]
      rfl
    · refine ⟨batches settings.batchSize (distinctTexts chunks), ?_, ?_, ?_, ?_⟩
      · rw [sent, attempt_of_ok hvectors, Provider.sent_embedAll_pointwise]
      · rw [flatten_batches, distinctTexts_eq_eraseDups hdigest]
      · rw [flatten_batches]
        exact (nodup_digests chunks).of_map _
      · intro batch hbatch
        exact ⟨ne_nil_of_mem_batches hbatch, length_le_of_mem_batches hbatch⟩
  · intro hmixed
    have hvectors := (queryVectors_pointwise settings embed query).trans
      (checkQuery_map_of_mixed hmixed)
    refine ⟨⟨.mixedQueryVectors, ?_⟩, ?_⟩
    · rw [score_eq, hvectors]
      rfl
    · rw [sent, attempt_of_error hvectors, Provider.sent_embedAll_pointwise]
  · intro settings' schedules' hlimit
    have hpieces : pieces settings' query = pieces settings query := by
      unfold pieces
      rw [hlimit]
    rw [score_eq, score_eq, queryVectors_pointwise, queryVectors_pointwise, hpieces]
    simp only [Provider.entriesOf_pointwise]

/-- Three chunks, the first two of one key and the last two of one text. -/
def sharedKey : List Chunk :=
  [⟨['z'], ['f'], 1, 1, .plain⟩, ⟨['x'], ['f'], 1, 1, .plain⟩, ⟨['x'], ['g'], 1, 1, .plain⟩]

/-- A vector of how often a text has each of two letters, of one coordinate only for the text `z`. -/
def shortForZ (text : Text) : List Binary64 :=
  if text = ['z'] then [Scalar.ofNat 1]
  else [Scalar.ofNat (text.count 'x'), Scalar.ofNat (text.count 'y')]

/-- Two batches of chunks are sent before the first answer, and the second one is answered first. -/
def lateFirst : Schedules := ⟨[], [.send, .send, .arrive 1]⟩

/-- A first chunk of a key whose vector has a wrong dimension, and a query cut in pieces of two
dimensions. -/
theorem score_of_sharedKey_is_direct :
    let cutAlways : EmbeddingSettings := { EmbeddingSettings.standard with queryTokenLimit := 0 }
    let headed := Text.ofString "z\na/x b/x"
    Collisionless sharedKey ∧
      (∀ piece ∈ pieces .standard ['x', 'y'], (shortForZ piece).length = 2) ∧
      (¬ ∃ dimension, ∀ piece ∈ pieces cutAlways headed, (shortForZ piece).length = dimension) ∧
      (∃ scores, score .standard (Provider.pointwise shortForZ) ['x', 'y'] sharedKey lateFirst =
          .ok scores ∧
        ∀ key, scores[key]? =
          (sharedKey.find? fun c => c.key = key ∧ (shortForZ c.text).length = 2).map fun c =>
            Scalar.mean ((pieces .standard ['x', 'y']).map fun piece =>
              cosine (shortForZ piece) (shortForZ c.text))) ∧
      ∃ fault, score cutAlways (Provider.pointwise shortForZ) headed sharedKey lateFirst =
        .error (.embedding fault) := by
  intro cutAlways headed
  have hdigest : Collisionless sharedKey := by decide +kernel
  have hdimension : ∀ piece ∈ pieces .standard ['x', 'y'], (shortForZ piece).length = 2 := by
    intro piece hpiece
    obtain rfl : piece = ['x', 'y'] := List.mem_singleton.mp hpiece
    rfl
  have hmixed : ¬ ∃ dimension, ∀ piece ∈ pieces cutAlways headed,
      (shortForZ piece).length = dimension := by
    have hpieces : pieces cutAlways headed = [['z'], Text.ofString "a/x b/x"] := by decide
    rw [hpieces]
    rintro ⟨dimension, hall⟩
    obtain rfl : 1 = dimension := hall ['z'] (by simp)
    have htwo : 2 = 1 := hall (Text.ofString "a/x b/x") (by simp)
    exact absurd htwo (by decide)
  refine ⟨hdigest, hdimension, hmixed, ?_, ?_⟩
  · exact ((score_pointwise_is_direct .standard shortForZ ['x', 'y'] hdigest lateFirst).1 2 hdimension).1
  · exact ((score_pointwise_is_direct cutAlways shortForZ headed hdigest lateFirst).2.1 hmixed).1

end Similarity

end CodeRetrieval
