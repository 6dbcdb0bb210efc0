/-
# CodeRetrieval.Proofs.DocumentOrder — the order of the documents leaves no trace in what search answers.

A text is scored against numbers that belong to all texts together: how many there are, how many hold a
term, how long they are on the whole.  None of these depends on the order of the texts, and they are
whole numbers, so no rounding comes in.  The places of the documents decide which of two equal scores
ranks first and nothing else.  Hence the scores under every title are the same in every order of the
documents, and so is what search answers, if different scores have different places in the order that
ranks them, as all scores in floating point have.
-/
import CodeRetrieval.Proofs.DoubleOrder
import CodeRetrieval.Proofs.TitleScores

namespace CodeRetrieval.Lexical

variable {R : Type} [Scalar R] {settings : KeywordSettings R} {query : List Text} {title : Text}

/-! ## Scores of rearranged texts -/

namespace Direct

variable {texts texts' : List Text}

theorem holders_of_perm (h : texts.Perm texts') (term : Text) :
    holders texts term = holders texts' term := h.countP_eq _

theorem meanLength_of_perm (h : texts.Perm texts') :
    (meanLength texts : R) = meanLength texts' := by
  have htotal : Index.total (texts.map fun text => (Token.all text).length) =
      Index.total (texts'.map fun text => (Token.all text).length) := by
    unfold Index.total
    exact (h.map _).foldl_eq 0
  unfold meanLength
  rw [htotal, h.length_eq]

theorem score_of_perm (h : texts.Perm texts') (text : Text) :
    score settings texts query text = score settings texts' query text := by
  have hterm : termScore settings texts text = termScore settings texts' text := by
    funext term
    unfold termScore
    rw [h.length_eq, holders_of_perm h, meanLength_of_perm h]
  unfold score
  rw [hterm]

end Direct

/-! ## Search -/

namespace Index

variable {documents documents' : List Document} {index index' : Index}

theorem Represents.scored_iff_of_perm (h : index.Represents documents)
    (h' : index'.Represents documents') (hperm : documents.Perm documents') (score : R) :
    index.Scored settings query title score ↔ index'.Scored settings query title score := by
  rw [h.scored_iff, h'.scored_iff]
  simp only [hperm.mem_iff, Direct.score_of_perm (hperm.map Document.content)]

/-- What is best for a title is told by the scores under the title. -/
theorem Best.of_scored_iff {best : R} (h : index.Best settings query title best)
    (hscored : ∀ score : R,
      index.Scored settings query title score ↔ index'.Scored settings query title score) :
    index'.Best settings query title best :=
  ⟨(hscored best).mp h.scored, fun score hscore => h.le_best score ((hscored score).mpr hscore)⟩

/-- The ends of the ranking are told by the scores under all titles. -/
theorem Ends.of_scored_iff {lowest highest : R} (h : index.Ends settings query lowest highest)
    (hscored : ∀ (title : Text) (score : R),
      index.Scored settings query title score ↔ index'.Scored settings query title score) :
    index'.Ends settings query lowest highest where
  lowest_scored := h.lowest_scored.imp fun title => (hscored title lowest).mp
  lowest_le title score hscore := h.lowest_le title score ((hscored title score).mpr hscore)
  highest_scored := h.highest_scored.imp fun title => (hscored title highest).mp
  le_highest title score hscore := h.le_highest title score ((hscored title score).mpr hscore)

/-- Search answers alike for the same documents in another order, whatever the order in which the terms
of each were listed, if the order of the numbers tells the scores of the ranking apart. -/
theorem search_of_perm (hperm : documents.Perm documents') (hbuilt : Built documents index)
    (hbuilt' : Built documents' index') (settings : KeywordSettings R) (query : List Text)
    (hdistinguishes : index.Distinguishes settings query) :
    (index.search settings query).Equiv (index'.search settings query) := by
  have h := hbuilt.represents
  have h' := hbuilt'.represents
  have hscored : ∀ (title : Text) (score : R), index'.Scored settings query title score ↔
      index.Scored settings query title score :=
    fun title score => h'.scored_iff_of_perm h hperm.symm score
  apply Std.HashMap.Equiv.of_forall_getElem?_eq
  intro title
  by_cases hmem : title ∈ index'.search settings query
  · obtain ⟨best, lowest, highest, hbest, hends, hsearch⟩ := h'.getElem?_search_of_mem hmem
    rw [hsearch]
    exact h.getElem?_search_of_best hdistinguishes (hbest.of_scored_iff (hscored title))
      (hends.of_scored_iff hscored)
  · have hnotMem : title ∉ index.search settings query := by
      rw [h.mem_search_iff_scored]
      rw [h'.mem_search_iff_scored] at hmem
      simpa only [hscored] using hmem
    rw [Std.HashMap.getElem?_eq_none hmem, Std.HashMap.getElem?_eq_none hnotMem]

/-- Scores in floating point are told apart, whatever the parameters. -/
theorem Represents.distinguishes (h : index.Represents documents)
    (settings : KeywordSettings Binary64) (query : List Text) : index.Distinguishes settings query := by
  -- every score is a sum
  have hcanonical : ∀ entry ∈ index.rawScores settings query, entry.2.Canonical := by
    rintro ⟨place, score⟩ hentry
    obtain ⟨text, _, _, rfl⟩ := ((h.isRanking_rawScores settings query).mem_iff place score).mp hentry
    exact Binary64.canonical_sum _
  intro a ha b hb hle hge
  exact (hcanonical a ha).eq_of_le (hcanonical b hb) hle hge

/-- Two documents of one title and another one, all of which hold the word. -/
def threeCaches : List Document :=
  [⟨['a', '.', 'r', 's'], ['c', 'a', 'c', 'h', 'e']⟩,
    ⟨['a', '.', 'r', 's'], ['c', 'a', 'c', 'h', 'e', ' ', 'i', 't']⟩,
    ⟨['b', '.', 'r', 's'], ['c', 'a', 'c', 'h', 'e', ' ', 'i', 't']⟩]

/-- Turned around, the documents get the same scores. -/
theorem search_threeCaches_reversed :
    (threeCaches.Perm threeCaches.reverse ∧
      Built threeCaches (ofDocuments threeCaches) ∧
      Built threeCaches.reverse (ofDocuments threeCaches.reverse) ∧
      (ofDocuments threeCaches).Distinguishes (KeywordSettings.standard : KeywordSettings Binary64)
        [['c', 'a', 'c', 'h', 'e']]) ∧
    ['a', '.', 'r', 's'] ∈ (ofDocuments threeCaches).search
      (KeywordSettings.standard : KeywordSettings Binary64) [['c', 'a', 'c', 'h', 'e']] ∧
    ((ofDocuments threeCaches).search (KeywordSettings.standard : KeywordSettings Binary64)
      [['c', 'a', 'c', 'h', 'e']]).Equiv
    ((ofDocuments threeCaches.reverse).search .standard [['c', 'a', 'c', 'h', 'e']]) := by
  have hperm := (List.reverse_perm threeCaches).symm
  have hbuilt := built_ofDocuments threeCaches
  have hbuilt' := built_ofDocuments threeCaches.reverse
  have hdistinguishes := hbuilt.represents.distinguishes
    (KeywordSettings.standard : KeywordSettings Binary64) [['c', 'a', 'c', 'h', 'e']]
  refine ⟨⟨hperm, hbuilt, hbuilt', hdistinguishes⟩, ?_,
    search_of_perm hperm hbuilt hbuilt' .standard _ hdistinguishes⟩
  rw [hbuilt.represents.mem_search]
  exact ⟨_, List.mem_cons_self, rfl, by decide +kernel⟩

end Index

end CodeRetrieval.Lexical
