/-
# CodeRetrieval.Proofs.TitleScores — the scores that search keeps under the titles.

Several documents may have one title, and each document that matches is scored under its title.  Search
keeps the best of these scores, brought to the scale between the ends of the ranking.  So what search
answers is told by the scores under each title alone, and not by the places of the documents.
-/
import CodeRetrieval.Proofs.KeywordSearch

namespace CodeRetrieval.Lexical

variable {R : Type} [Scalar R]

namespace Index

/-- A score on the scale between the two ends of a ranking, which starts at zero if they are equal. -/
def scale (lowest highest score : R) : R :=
  normalise (if Scalar.below lowest highest then lowest else Scalar.ofNat 0) highest score

/-- A document of the title matches the query and has the score. -/
def Scored (index : Index) (settings : KeywordSettings R) (query : List Text) (title : Text)
    (score : R) : Prop :=
  ∃ place, (place, score) ∈ index.rawScores settings query ∧ index.titles.getD place [] = title

/-- The best score of the documents of a title. -/
structure Best (index : Index) (settings : KeywordSettings R) (query : List Text) (title : Text)
    (best : R) : Prop where
  scored : index.Scored settings query title best
  le_best : ∀ score, index.Scored settings query title score → Scalar.le score best = true

/-- The least and the greatest score of all. -/
structure Ends (index : Index) (settings : KeywordSettings R) (query : List Text)
    (lowest highest : R) : Prop where
  lowest_scored : ∃ title, index.Scored settings query title lowest
  lowest_le : ∀ title score, index.Scored settings query title score → Scalar.le lowest score = true
  highest_scored : ∃ title, index.Scored settings query title highest
  le_highest : ∀ title score, index.Scored settings query title score →
    Scalar.le score highest = true

variable {index index' : Index} {documents : List Document} {settings : KeywordSettings R}
  {query : List Text} {title : Text} {score : R}

theorem scored_of_mem {entry : Nat × R} (h : entry ∈ index.rawScores settings query) :
    index.Scored settings query (index.titles.getD entry.1 []) entry.2 :=
  ⟨entry.1, h, rfl⟩

/-- A title has the scores of its documents that match. -/
theorem Represents.scored_iff (h : index.Represents documents) :
    index.Scored settings query title score ↔
      ∃ document ∈ documents, document.title = title ∧ Matches query document.content ∧
        score = Direct.score settings (documents.map Document.content) query document.content :=
  h.exists_titled_iff (h.isRanking_rawScores settings query) title score

/-- Search answers for the titles that have a score. -/
theorem Represents.mem_search_iff_scored (h : index.Represents documents) :
    title ∈ index.search settings query ↔ ∃ score, index.Scored settings query title score := by
  rw [h.mem_search settings query title]
  simp only [h.scored_iff]
  constructor
  · rintro ⟨document, hmem, htitle, hmatches⟩
    exact ⟨_, document, hmem, htitle, hmatches, rfl⟩
  · rintro ⟨_, document, hmem, htitle, hmatches, _⟩
    exact ⟨document, hmem, htitle, hmatches⟩

/-! ## From the ranking -/

theorem rawScores_descending (index : Index) (settings : KeywordSettings R) (query : List Text) :
    (index.rawScores settings query).Pairwise fun a b => Scalar.le b.2 a.2 = true := by
  unfold rawScores rankListed
  split
  · exact .nil
  · refine (List.pairwise_mergeSort ranksBefore_trans ranksBefore_total _).imp ?_
    intro a b hbefore
    exact ((ranksBefore_iff a b).mp hbefore).1

/-- The ends of the ranking are the least and the greatest score. -/
theorem ends_of_ne_nil (h : index.rawScores settings query ≠ []) :
    index.Ends settings query ((index.rawScores settings query).getLast h).2
      ((index.rawScores settings query).head h).2 := by
  have hdescending := index.rawScores_descending settings query
  refine ⟨⟨_, scored_of_mem (List.getLast_mem h)⟩, ?_, ⟨_, scored_of_mem (List.head_mem h)⟩, ?_⟩
  · rintro title score ⟨place, hmem, _⟩
    rw [← List.dropLast_append_getLast h] at hmem hdescending
    rcases List.mem_append.mp hmem with hfront | hlast
    · exact (List.pairwise_append.mp hdescending).2.2 _ hfront _ (List.mem_singleton_self _)
    · rw [← List.mem_singleton.mp hlast]
      exact le_refl score
  · rintro title score ⟨place, hmem, _⟩
    rw [← List.cons_head_tail h] at hmem hdescending
    rcases List.mem_cons.mp hmem with hhead | htail
    · rw [← hhead]
      exact le_refl score
    · exact (List.pairwise_cons.mp hdescending).1 _ htail

/-- The first entry of a title in the ranking has the best score of the title. -/
theorem best_of_find? {entry : Nat × R}
    (h : (index.rawScores settings query).find? (index.titles.getD ·.1 [] = title) = some entry) :
    index.Best settings query title entry.2 := by
  obtain ⟨htitle, front, back, hsplit, hfront⟩ := List.find?_eq_some_iff_append.mp h
  rw [decide_eq_true_eq] at htitle
  have hdescending := index.rawScores_descending settings query
  refine ⟨⟨entry.1, List.mem_of_find?_eq_some h, htitle⟩, ?_⟩
  rintro score ⟨place, hmem, hscored⟩
  rw [hsplit] at hmem hdescending
  rcases List.mem_append.mp hmem with hbefore | hrest
  · have hother := hfront _ hbefore
    simp [hscored] at hother
  · rcases List.mem_cons.mp hrest with hself | hbehind
    · rw [← hself]
      exact le_refl score
    · exact (List.pairwise_cons.mp (List.pairwise_append.mp hdescending).2.1).1 _ hbehind

/-- Search gives every title that has a score the best one of them, on the scale between the ends. -/
theorem Represents.getElem?_search_of_mem (h : index.Represents documents)
    (hmem : title ∈ index.search settings query) :
    ∃ best lowest highest, index.Best settings query title best ∧
      index.Ends settings query lowest highest ∧
      (index.search settings query)[title]? = some (scale lowest highest best) := by
  obtain ⟨score, place, hentry, htitle⟩ := h.mem_search_iff_scored.mp hmem
  have hnil := List.ne_nil_of_mem hentry
  obtain ⟨entry, hfind⟩ : ∃ entry, (index.rawScores settings query).find?
      (index.titles.getD ·.1 [] = title) = some entry := by
    rw [← Option.isSome_iff_exists, List.find?_isSome]
    exact ⟨(place, score), hentry, decide_eq_true htitle⟩
  refine ⟨entry.2, _, _, best_of_find? hfind, ends_of_ne_nil hnil, ?_⟩
  rw [getElem?_search hnil, hfind]
  rfl

/-! ## Where the order tells scores apart -/

/-- No two different scores of the ranking have one place in the order. -/
def Distinguishes (index : Index) (settings : KeywordSettings R) (query : List Text) : Prop :=
  ∀ a ∈ index.rawScores settings query, ∀ b ∈ index.rawScores settings query,
    Scalar.le a.2 b.2 = true → Scalar.le b.2 a.2 = true → a.2 = b.2

theorem Distinguishes.eq (h : index.Distinguishes settings query) {title' : Text} {score' : R}
    (hscored : index.Scored settings query title score)
    (hscored' : index.Scored settings query title' score') (hle : Scalar.le score score' = true)
    (hge : Scalar.le score' score = true) : score = score' := by
  obtain ⟨place, hmem, _⟩ := hscored
  obtain ⟨place', hmem', _⟩ := hscored'
  exact h _ hmem _ hmem' hle hge

/-- Then a title has one best score, and the ranking two ends. -/
theorem Distinguishes.best_unique (h : index.Distinguishes settings query) {best best' : R}
    (hbest : index.Best settings query title best) (hbest' : index.Best settings query title best') :
    best = best' :=
  h.eq hbest.scored hbest'.scored (hbest'.le_best _ hbest.scored) (hbest.le_best _ hbest'.scored)

theorem Distinguishes.ends_unique (h : index.Distinguishes settings query)
    {lowest highest lowest' highest' : R} (hends : index.Ends settings query lowest highest)
    (hends' : index.Ends settings query lowest' highest') : lowest = lowest' ∧ highest = highest' := by
  obtain ⟨_, hlowest⟩ := hends.lowest_scored
  obtain ⟨_, hlowest'⟩ := hends'.lowest_scored
  obtain ⟨_, hhighest⟩ := hends.highest_scored
  obtain ⟨_, hhighest'⟩ := hends'.highest_scored
  constructor
  · exact h.eq hlowest hlowest' (hends.lowest_le _ _ hlowest') (hends'.lowest_le _ _ hlowest)
  · exact h.eq hhighest hhighest' (hends'.le_highest _ _ hhighest) (hends.le_highest _ _ hhighest')

/-- Then the best score of a title and the ends of the ranking say what search answers. -/
theorem Represents.getElem?_search_of_best (h : index.Represents documents)
    (hdistinguishes : index.Distinguishes settings query) {best lowest highest : R}
    (hbest : index.Best settings query title best)
    (hends : index.Ends settings query lowest highest) :
    (index.search settings query)[title]? = some (scale lowest highest best) := by
  obtain ⟨best', lowest', highest', hbest', hends', hsearch⟩ :=
    h.getElem?_search_of_mem (h.mem_search_iff_scored.mpr ⟨best, hbest.scored⟩)
  obtain ⟨rfl, rfl⟩ := hdistinguishes.ends_unique hends hends'
  rw [hdistinguishes.best_unique hbest hbest']
  exact hsearch

end Index

end CodeRetrieval.Lexical
