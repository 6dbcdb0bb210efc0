/-
# CodeRetrieval.Proofs.KeywordPriority — when keyword matches come first.

A chunk with a keyword score and one without are rated by different formulas, so which of them is ranked
first depends on the similarities as well.  With the standard blend the similarity of a match has to
exceed one part in 175: then the match comes first whatever the other scores in their ranges are, and a
lower bound does not do.  Without a provider all similarities are the same, and the ranking is that of
the keywords.
-/
import CodeRetrieval.Proofs.DirectRetrieval
import CodeRetrieval.Proofs.ExactNumbers
import CodeRetrieval.Proofs.Ranking
import CodeRetrieval.Proofs.StableSort

namespace CodeRetrieval

open Lexical (Scores)

variable {R : Type} [Scalar R]

namespace Ranking

variable {settings : RankSettings R} {keyword similarity : Scores R} {chunks : List Chunk}

/-! ## Matches first -/

/-- All scores of a map lie between two bounds. -/
def Within (low high : R) (scores : Scores R) : Prop :=
  ∀ (key : Text) (x : R), scores[key]? = some x → Scalar.le low x = true ∧ Scalar.le x high = true

/-- The chunks with a keyword score are ranked before those without: the selection is cut from a ranking
of all chunks in which none with a keyword score stands behind one without. -/
def KeywordFirst (settings : RankSettings R) (keyword similarity : Scores R) (chunks : List Chunk) :
    Prop :=
  ∃ ranking, Ranks settings keyword similarity chunks ranking ∧
    select settings keyword similarity chunks = ranking.take settings.topK ∧
    ranking.Pairwise fun a b => b.keyword.isSome = true → a.keyword.isSome = true

theorem KeywordFirst.pairwise_select (h : KeywordFirst settings keyword similarity chunks) :
    (select settings keyword similarity chunks).Pairwise fun a b =>
      b.keyword.isSome = true → a.keyword.isSome = true := by
  obtain ⟨ranking, _, hselect, hpairwise⟩ := h
  rw [hselect]
  exact hpairwise.sublist (List.take_sublist _ _)

/-- With the standard blend a match of a similarity above one part in 175 outdoes every chunk that is
no match. -/
theorem score_lt_of_match {keyword similarity : Scores Exact} {a b : Chunk} {k : Exact}
    (hkeyword : Within (Scalar.ofNat 0) (Scalar.ofNat 1) keyword)
    (hsimilarity : Within (Scalar.ofNat 0 - Scalar.ofNat 1) (Scalar.ofNat 1) similarity)
    (ha : keyword[a.key]? = none) (hb : keyword[b.key]? = some k)
    (hfloor : 1 / 175 <
      (similarity.getD b.key (RankSettings.standard : RankSettings Exact).absentSimilarity).value) :
    (rate .standard keyword similarity a).score.value <
      (rate .standard keyword similarity b).score.value := by
  rw [rate_score_of_none ha, rate_score_of_some hb]
  have hk : 0 ≤ k.value := by simpa using (hkeyword b.key k hb).1
  have hs : (similarity.getD a.key (RankSettings.standard : RankSettings Exact).absentSimilarity).value
      ≤ 1 := by
    rw [Std.HashMap.getD_eq_getD_getElem?]
    cases h : similarity[a.key]? with
    | none =>
        simp only [RankSettings.standard, Option.getD_none, Exact.value_ofScientific]
        norm_num
    | some s => simpa using (hsimilarity a.key s h).2
  simp only [RankSettings.standard, Exact.value_add, Exact.value_mul,
    Exact.value_ofScientific] at hfloor hs ⊢
  norm_num at hfloor hs ⊢
  linarith

theorem keywordFirst_of_floor {floor : ℝ} {keyword similarity : Scores Exact} (h : 1 / 175 < floor)
    (hkeyword : Within (Scalar.ofNat 0) (Scalar.ofNat 1) keyword)
    (hsimilarity : Within (Scalar.ofNat 0 - Scalar.ofNat 1) (Scalar.ofNat 1) similarity)
    (hfloor : ∀ chunk ∈ chunks, chunk.key ∈ keyword → floor ≤
      (similarity.getD chunk.key (RankSettings.standard : RankSettings Exact).absentSimilarity).value) :
    KeywordFirst .standard keyword similarity chunks := by
  obtain ⟨ranking, hranks, hselect⟩ := exists_ranks .standard keyword similarity chunks
  refine ⟨ranking, hranks, hselect, hranks.descending.imp_of_mem ?_⟩
  intro a b ha hb hdescending hmatch
  by_contra hnone
  have hbchunk : b.chunk ∈ chunks := hranks.complete.mem_iff.mp (List.mem_map_of_mem hb)
  rw [hranks.rated a ha, hranks.rated b hb] at hdescending
  rw [hranks.rated a ha] at hnone
  rw [hranks.rated b hb] at hmatch
  -- the keyword scores of the two entries are those under their keys
  change (keyword[b.chunk.key]?).isSome = true at hmatch
  change ¬ (keyword[a.chunk.key]?).isSome = true at hnone
  obtain ⟨k, hk⟩ := Option.isSome_iff_exists.mp hmatch
  have hmem : b.chunk.key ∈ keyword := Std.HashMap.isSome_getElem?_iff_mem.mp hmatch
  have hlt := score_lt_of_match hkeyword hsimilarity (by simpa using hnone) hk
    (h.trans_le (hfloor b.chunk hbchunk hmem))
  rw [Exact.le_iff] at hdescending
  exact absurd hdescending (not_le.mpr hlt)

/-! ### Two chunks in the wrong order -/

/-- The first of two lines. -/
def upper : Chunk := ⟨['a', '\n', 'b'], ['f'], 1, 1, .plain⟩

/-- The second of two lines. -/
def lower : Chunk := ⟨['a', '\n', 'b'], ['f'], 2, 2, .plain⟩

/-- A keyword score for the second line only. -/
def lowerMatches (k : R) : Scores R := (∅ : Scores R).insert lower.key k

/-- Similarities of the two lines. -/
def similarities (s t : R) : Scores R := ((∅ : Scores R).insert upper.key s).insert lower.key t

theorem key_upper_ne_key_lower : upper.key ≠ lower.key := by decide

theorem within_lowerMatches {low high k : R} (hlow : Scalar.le low k = true)
    (hhigh : Scalar.le k high = true) : Within low high (lowerMatches k) := by
  intro key x hx
  unfold lowerMatches at hx
  rw [Std.HashMap.getElem?_insert] at hx
  split at hx
  · obtain rfl := Option.some.inj hx
    exact ⟨hlow, hhigh⟩
  · simp at hx

theorem within_similarities {low high s t : R}
    (hs : Scalar.le low s = true ∧ Scalar.le s high = true)
    (ht : Scalar.le low t = true ∧ Scalar.le t high = true) :
    Within low high (similarities s t) := by
  intro key x hx
  unfold similarities at hx
  rw [Std.HashMap.getElem?_insert] at hx
  split at hx
  · obtain rfl := Option.some.inj hx
    exact ht
  · rw [Std.HashMap.getElem?_insert] at hx
    split at hx
    · obtain rfl := Option.some.inj hx
      exact hs
    · simp at hx

/-- If the score of the matching line does not exceed that of the other one, the match comes last. -/
theorem not_keywordFirst {k s t : R} (htop : 2 ≤ settings.topK)
    (h : Scalar.le (k + t * settings.weight) (settings.soleFactor * s) = true) :
    ¬ KeywordFirst settings (lowerMatches k) (similarities s t) [upper, lower] := by
  have hupper : (lowerMatches k)[upper.key]? = none := by
    simp [lowerMatches, key_upper_ne_key_lower.symm]
  have hlower : (lowerMatches k)[lower.key]? = some k := by
    simp [lowerMatches]
  have hs : (similarities s t).getD upper.key settings.absentSimilarity = s := by
    simp [similarities, Std.HashMap.getD_insert, key_upper_ne_key_lower.symm]
  have ht : (similarities s t).getD lower.key settings.absentSimilarity = t := by
    simp [similarities]
  have hsorted : ([upper, lower].map (rate settings (lowerMatches k) (similarities s t))).Pairwise
      fun a b => ranksBefore a b = true := by
    simp only [List.map_cons, List.map_nil, List.pairwise_pair]
    unfold ranksBefore
    rw [rate_score_of_none hupper, rate_score_of_some hlower, hs, ht]
    exact h
  intro hfirst
  have hpairwise := hfirst.pairwise_select
  unfold select at hpairwise
  rw [List.mergeSort_of_pairwise hsorted, List.take_of_length_le (by simpa using htop)] at hpairwise
  simp only [List.map_cons, List.map_nil, List.pairwise_pair] at hpairwise
  -- the second line has a keyword score, the first has none
  change (lowerMatches k)[lower.key]?.isSome = true → (lowerMatches k)[upper.key]?.isSome = true
    at hpairwise
  simp [hupper, hlower] at hpairwise

/-- With the standard blend, keyword scores in the unit interval and similarities between minus one and
one, matches come first under a lower bound of their similarities exactly if the bound exceeds one part
in 175. -/
theorem keywordFirst_iff_floor (floor : ℝ) :
    (∀ (keyword similarity : Scores Exact) (chunks : List Chunk),
      Within (Scalar.ofNat 0) (Scalar.ofNat 1) keyword →
      Within (Scalar.ofNat 0 - Scalar.ofNat 1) (Scalar.ofNat 1) similarity →
      (∀ chunk ∈ chunks, chunk.key ∈ keyword → floor ≤
        (similarity.getD chunk.key (RankSettings.standard : RankSettings Exact).absentSimilarity).value) →
      KeywordFirst .standard keyword similarity chunks) ↔ 1 / 175 < floor := by
  constructor
  · intro h
    by_contra hfloor
    have hkeyword : Within (Scalar.ofNat 0) (Scalar.ofNat 1) (lowerMatches (⟨0⟩ : Exact)) :=
      within_lowerMatches (by simp) (by simp)
    have hsimilarity : Within (Scalar.ofNat 0 - Scalar.ofNat 1) (Scalar.ofNat 1)
        (similarities (⟨1⟩ : Exact) ⟨1 / 175⟩) :=
      within_similarities ⟨by simp, by simp⟩ ⟨by norm_num, by norm_num⟩
    -- the scores of the two lines are the same, so they stay in their order
    have htie : Scalar.le ((⟨0⟩ : Exact) + ⟨1 / 175⟩ * (RankSettings.standard : RankSettings Exact).weight)
        ((RankSettings.standard : RankSettings Exact).soleFactor * ⟨1⟩) = true := by
      simp only [RankSettings.standard, Exact.le_iff, Exact.value_add, Exact.value_mul,
        Exact.value_ofScientific]
      norm_num
    refine not_keywordFirst (by decide) htie (h _ _ _ hkeyword hsimilarity ?_)
    intro chunk hchunk hmem
    rcases List.mem_pair.mp hchunk with rfl | rfl
    · simp [lowerMatches, key_upper_ne_key_lower.symm] at hmem
    · simp only [similarities, Std.HashMap.getD_insert_self]
      exact not_lt.mp hfloor
  · intro hfloor keyword similarity chunks hkeyword hsimilarity h
    exact keywordFirst_of_floor hfloor hkeyword hsimilarity h

/-- Half of minus one. -/
def opposed : Binary64 := (Scalar.ofNat 0 - Scalar.ofNat 1) / Scalar.ofNat 2

/-- The best match there can be comes last if its similarity is negative. -/
theorem opposed_match_comes_last :
    Within (Scalar.ofNat 0) (Scalar.ofNat 1) (lowerMatches (Scalar.ofNat 1 : Binary64)) ∧
      Within (Scalar.ofNat 0 - Scalar.ofNat 1) (Scalar.ofNat 1)
        (similarities (Scalar.ofNat 0 : Binary64) opposed) ∧
      ¬ KeywordFirst .standard (lowerMatches (Scalar.ofNat 1 : Binary64))
        (similarities (Scalar.ofNat 0) opposed) [upper, lower] := by
  refine ⟨within_lowerMatches (by decide +kernel) (by decide +kernel),
    within_similarities (by decide +kernel) (by decide +kernel), ?_⟩
  exact not_keywordFirst (by decide) (by decide +kernel)

end Ranking

/-! ## The order of the keywords -/

namespace Lexical.Direct

/-- On a scale from the least to the greatest of some exact scores none of them lies below zero. -/
theorem rescale_nonneg {scores : List Exact} {score : Exact} (h : score ∈ scores) :
    0 ≤ (rescale scores score).value := by
  unfold rescale
  cases hgreatest : greatest scores with
  | none => simp
  | some high =>
      cases hleast : least scores with
      | none => simp
      | some lowest =>
          have hlowest : lowest.value ≤ score.value := by
            have hall := List.find?_some hleast
            rw [List.all_eq_true] at hall
            exact (Exact.le_iff lowest score).mp (hall score h)
          simp only
          split
          · split
            · -- the scale starts at the least score
              rename_i hbelow hrange
              simp only [Exact.below_iff, Exact.value_sub, Exact.value_ofNat, Nat.cast_zero]
                at hbelow hrange
              simp only [Exact.value_div, Exact.value_sub]
              exact div_nonneg (by linarith) hrange.le
            · simp
          · split
            · -- the scale starts at zero, which is below the greatest score and so below all
              rename_i hbelow hrange
              simp only [Exact.below_iff, not_lt, Exact.value_sub, Exact.value_ofNat, Nat.cast_zero,
                sub_zero] at hbelow hrange
              simp only [Exact.value_div, Exact.value_sub, Exact.value_ofNat, Nat.cast_zero, sub_zero]
              exact div_nonneg (by linarith) hrange.le
            · simp

end Lexical.Direct

namespace Retrieval

/-- Whether a chunk shares a term with a query. -/
def shares (query : Text) (chunk : Chunk) : Bool := decide (Lexical.Matches (Token.all query) chunk.text)

/-- The keyword score of a chunk among all chunks on the unit scale, zero where no term is shared. -/
def unitScore (settings : Settings R) (chunks : List Chunk) (query : Text) (chunk : Chunk) : R :=
  (Lexical.Direct.normalised settings.keyword (chunks.map Chunk.text) (Token.all query)
    chunk.text).getD (Scalar.ofNat 0)

/-- The chunks that share a term with the query, by descending keyword score and chunks of one score in
their order, and behind them all others in theirs. -/
def keywordOrder (settings : Settings R) (chunks : List Chunk) (query : Text) : List Chunk :=
  (chunks.filter (shares query)).mergeSort (fun a b =>
      Scalar.le (unitScore settings chunks query b) (unitScore settings chunks query a)) ++
    chunks.filter fun chunk => !shares query chunk

variable {settings : Settings R} {corpus : Corpus} {query : Text} {chunks : List Chunk} {chunk : Chunk}

theorem normalised_of_shares (h : shares query chunk = true) :
    Lexical.Direct.normalised settings.keyword (chunks.map Chunk.text) (Token.all query) chunk.text =
      some (unitScore settings chunks query chunk) := by
  have hmatches : Lexical.Matches (Token.all query) chunk.text := of_decide_eq_true h
  unfold unitScore Lexical.Direct.normalised
  rw [if_pos hmatches]
  rfl

theorem normalised_of_not_shares (h : shares query chunk = false) :
    Lexical.Direct.normalised settings.keyword (chunks.map Chunk.text) (Token.all query) chunk.text =
      none := by
  have hmatches : ¬ Lexical.Matches (Token.all query) chunk.text := of_decide_eq_false h
  unfold Lexical.Direct.normalised
  rw [if_neg hmatches]

theorem unitScore_nonneg {settings : Settings Exact} (hmem : chunk ∈ chunks)
    (h : shares query chunk = true) : 0 ≤ (unitScore settings chunks query chunk).value := by
  have hmatches : Lexical.Matches (Token.all query) chunk.text := of_decide_eq_true h
  unfold unitScore Lexical.Direct.normalised
  rw [if_pos hmatches, Option.getD_some]
  apply Lexical.Direct.rescale_nonneg
  unfold Lexical.Direct.scores
  apply List.mem_map_of_mem
  rw [List.mem_filter]
  exact ⟨List.mem_map_of_mem hmem, decide_eq_true hmatches⟩

/-! ## Ranking without a provider -/

theorem rate_score_of_shares (h : shares query chunk = true) :
    (Direct.rate settings none (chunks.map Chunk.text) query chunk).score =
      unitScore settings chunks query chunk + settings.rank.absentSimilarity * settings.rank.weight := by
  unfold Direct.rate
  simp only [normalised_of_shares h]
  rfl

theorem rate_score_of_not_shares (h : shares query chunk = false) :
    (Direct.rate settings none (chunks.map Chunk.text) query chunk).score =
      settings.rank.soleFactor * settings.rank.absentSimilarity := by
  unfold Direct.rate
  simp only [normalised_of_not_shares h]
  rfl

/-- Without a provider every chunk is rated from its text. -/
theorem rank_none_eq (hkeys : (corpus.chunks.map Chunk.key).Nodup) :
    rank settings none corpus query = .ok (Direct.rank settings none corpus.chunks query) := by
  have hrate : corpus.chunks.map (Ranking.rate settings.rank
      (keywordScores settings corpus query) ∅) =
      corpus.chunks.map (Direct.rate settings none (corpus.chunks.map Chunk.text) query) := by
    rw [List.map_inj_left]
    intro chunk hmem
    unfold Ranking.rate Direct.rate
    simp only [Std.HashMap.getD_empty]
    rw [getElem?_keywordScores hkeys hmem]
    rfl
  have hnone : similarityScores settings none corpus query = .ok (∅ : Scores R) := rfl
  rw [rank_of_similarityScores hnone, Ranking.select, hrate]
  rfl

/-- Sorting chunks by the scores that they have without a provider is ordering them by their
keywords. -/
theorem mergeSort_rate_eq {settings : Settings Exact} (chunks : List Chunk) (query : Text)
    (hweight : (settings.rank.soleFactor * settings.rank.absentSimilarity).value <
      (settings.rank.absentSimilarity * settings.rank.weight).value) :
    (chunks.map (Direct.rate settings none (chunks.map Chunk.text) query)).mergeSort
        (fun a b => Scalar.le b.score a.score) =
      (keywordOrder settings chunks query).map
        (Direct.rate settings none (chunks.map Chunk.text) query) := by
  let rate := Direct.rate settings none (chunks.map Chunk.text) query
  let before (a b : Chunk) : Bool := Scalar.le (rate b).score (rate a).score
  have htrans : ∀ a b c, before a b = true → before b c = true → before a c = true :=
    fun a b c hab hbc => Scalar.le_trans _ _ _ hbc hab
  have htotal : ∀ a b, (before a b || before b a) = true := fun a b => Scalar.le_total _ _
  -- a chunk that shares a term has a score of at least the weighted similarity, any other one less
  have hseparated : ∀ a ∈ chunks, ∀ b ∈ chunks, shares query a = true → shares query b = false →
      before a b = true ∧ before b a = false := by
    intro a ha b _ hsharesa hsharesb
    have hunit : 0 ≤ (unitScore settings chunks query a).value := unitScore_nonneg ha hsharesa
    have hlt : (rate b).score.value < (rate a).score.value := by
      rw [rate_score_of_shares hsharesa, rate_score_of_not_shares hsharesb, Exact.value_add]
      linarith
    refine ⟨(Exact.le_iff _ _).mpr hlt.le, ?_⟩
    rw [← Bool.not_eq_true]
    intro hle
    exact absurd ((Exact.le_iff _ _).mp hle) (not_le.mpr hlt)
  have hmatching : (chunks.filter (shares query)).mergeSort before =
      (chunks.filter (shares query)).mergeSort fun a b =>
        Scalar.le (unitScore settings chunks query b) (unitScore settings chunks query a) := by
    apply StableSort.mergeSort_congr
    intro a ha b hb
    rw [List.mem_filter] at ha hb
    show Scalar.le (rate b).score (rate a).score = _
    rw [rate_score_of_shares ha.2, rate_score_of_shares hb.2, Bool.eq_iff_iff]
    simp
  have hothers : (chunks.filter fun chunk => !shares query chunk).mergeSort before =
      chunks.filter fun chunk => !shares query chunk := by
    apply List.mergeSort_of_pairwise
    apply List.pairwise_of_forall_mem_list
    intro a ha b hb
    rw [List.mem_filter, Bool.not_eq_true'] at ha hb
    show Scalar.le (rate b).score (rate a).score = true
    rw [rate_score_of_not_shares ha.2, rate_score_of_not_shares hb.2]
    simp
  have hmap : (chunks.mergeSort before).map rate =
      (chunks.map rate).mergeSort fun a b => Scalar.le b.score a.score :=
    List.map_mergeSort fun _ _ _ _ => rfl
  rw [← hmap, StableSort.mergeSort_eq_append htrans htotal hseparated, hmatching, hothers]
  rfl

/-- Without a provider the chunks are ranked by their keywords alone if the similarity of an absent one
weighs more beside a keyword score than without one, as it does in the standard blend: the result are
the first chunks of the order of the keywords, each with the scores of its text. -/
theorem rank_none_is_keywordOrder (settings : Settings Exact) (corpus : Corpus) (query : Text)
    (hkeys : (corpus.chunks.map Chunk.key).Nodup)
    (hweight : (settings.rank.soleFactor * settings.rank.absentSimilarity).value <
      (settings.rank.absentSimilarity * settings.rank.weight).value) :
    rank settings none corpus query =
      .ok (((keywordOrder settings corpus.chunks query).take settings.rank.topK).map
        (Direct.rate settings none (corpus.chunks.map Chunk.text) query)) := by
  rw [rank_none_eq hkeys, List.map_take, ← mergeSort_rate_eq corpus.chunks query hweight]
  rfl

/-- Of three lines the first and the last match, and they keep their order before the other one. -/
theorem rank_threeLines_by_keywords :
    ((threeLines.chunks.map Chunk.key).Nodup ∧
        ((Settings.standard : Settings Exact).rank.soleFactor *
            (Settings.standard : Settings Exact).rank.absentSimilarity).value <
          ((Settings.standard : Settings Exact).rank.absentSimilarity *
            (Settings.standard : Settings Exact).rank.weight).value) ∧
      ∃ ranked, rank (.standard : Settings Exact) none threeLines ['x', 'a'] = .ok ranked ∧
        ranked.map (·.chunk.first) = [1, 3, 2] := by
  have hkeys : (threeLines.chunks.map Chunk.key).Nodup := by decide
  have hweight : ((Settings.standard : Settings Exact).rank.soleFactor *
      (Settings.standard : Settings Exact).rank.absentSimilarity).value <
      ((Settings.standard : Settings Exact).rank.absentSimilarity *
        (Settings.standard : Settings Exact).rank.weight).value := by
    simp only [Settings.standard, RankSettings.standard, Exact.value_mul, Exact.value_ofScientific]
    norm_num
  refine ⟨⟨hkeys, hweight⟩, _, rank_none_is_keywordOrder .standard threeLines ['x', 'a'] hkeys hweight, ?_⟩
  have hshares : threeLines.chunks.map (shares ['x', 'a']) = [true, false, true] := by decide +kernel
  simp only [threeLines, List.map_cons, List.map_nil, List.cons.injEq, and_true] at hshares
  -- the two matches have one text and so one score
  have hsorted (chunks : List Chunk) (first third : Chunk) (h : first.text = third.text) :
      [first, third].mergeSort (fun a b => Scalar.le
        (unitScore (.standard : Settings Exact) chunks ['x', 'a'] b)
        (unitScore .standard chunks ['x', 'a'] a)) = [first, third] := by
    apply List.mergeSort_of_pairwise
    rw [List.pairwise_pair]
    unfold unitScore
    rw [h]
    exact Lexical.le_refl _
  unfold keywordOrder
  simp only [threeLines, List.filter_cons, hshares, List.filter_nil, Bool.not_true, Bool.not_false,
    if_true, if_false, Bool.false_eq_true]
  rw [hsorted]
  · rfl
  · decide

end Retrieval

end CodeRetrieval
