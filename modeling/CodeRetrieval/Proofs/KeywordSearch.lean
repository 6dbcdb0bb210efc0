/-
# CodeRetrieval.Proofs.KeywordSearch — normalised scores without an index.

`Direct.normalised` brings a score to the scale between the least and the greatest score of the texts
that match.  Search takes the two from the ends of its ranking, and they are the same numbers: where the
order calls several scores equal, the ranking has the first text at its head and the last one at its
end, and so have `greatest` and `least`.
-/
import CodeRetrieval.Proofs.KeywordScore

namespace CodeRetrieval.Lexical

variable {R : Type} [Scalar R]

namespace Direct

/-- The first score that no other one exceeds. -/
def greatest (scores : List R) : Option R := scores.find? fun s => scores.all (Scalar.le · s)

/-- The last score that exceeds no other one. -/
def least (scores : List R) : Option R := scores.reverse.find? fun s => scores.all (Scalar.le s ·)

/-- The scores of the texts that match, in the order of the texts. -/
def scores (settings : KeywordSettings R) (texts : List Text) (query : List Text) : List R :=
  (texts.filter (Matches query ·)).map (score settings texts query)

/-- A score on the scale from the least to the greatest one, which starts at zero if they are equal.
Scores have both as soon as there is one of them. -/
def rescale (scores : List R) (score : R) : R :=
  match greatest scores, least scores with
  | some high, some lowest =>
    let low := if Scalar.below lowest high then lowest else Scalar.ofNat 0
    if Scalar.below (Scalar.ofNat 0) (high - low) then (score - low) / (high - low)
    else Scalar.ofNat 0
  | _, _ => Scalar.ofNat 0

/-- The normalised score of a text among all texts, absent if it does not match. -/
def normalised (settings : KeywordSettings R) (texts : List Text) (query : List Text) (text : Text) :
    Option R :=
  if Matches query text then
    some (rescale (scores settings texts query) (score settings texts query text))
  else none

end Direct

/-! ## Ends of a ranking -/

/-- The texts that match, each with its place and score, in the order of the texts. -/
def placedScores (settings : KeywordSettings R) (texts : List Text) (query : List Text) :
    List (Nat × R) :=
  (texts.zipIdx.filter fun entry => decide (Matches query entry.1)).map fun entry =>
    (entry.2, Direct.score settings texts query entry.1)

variable {settings : KeywordSettings R} {texts : List Text} {query : List Text}

theorem map_snd_placedScores :
    (placedScores settings texts query).map Prod.snd = Direct.scores settings texts query := by
  have hfilter : texts.filter (fun text => decide (Matches query text)) =
      (texts.zipIdx.filter fun entry => decide (Matches query entry.1)).map Prod.fst := by
    conv_lhs => rw [← List.zipIdx_map_fst 0 texts, List.filter_map]
    rfl
  unfold placedScores Direct.scores
  rw [hfilter, List.map_map, List.map_map]
  rfl

theorem ascending_placedScores :
    (placedScores settings texts query).Pairwise fun a b => a.1 < b.1 :=
  List.pairwise_map.mpr ((ascending_zipIdx texts).filter _)

theorem mem_placedScores (place : Nat) (score : R) :
    (place, score) ∈ placedScores settings texts query ↔ ∃ text, texts[place]? = some text ∧
      Matches query text ∧ score = Direct.score settings texts query text := by
  unfold placedScores
  rw [List.mem_map]
  constructor
  · rintro ⟨⟨text, place'⟩, hmem, heq⟩
    obtain ⟨rfl, rfl⟩ := Prod.mk.inj heq
    obtain ⟨hplace, hmatches⟩ := List.mem_filter.mp hmem
    exact ⟨text, List.mem_zipIdx_iff_getElem?.mp hplace, of_decide_eq_true hmatches, rfl⟩
  · rintro ⟨text, hplace, hmatches, rfl⟩
    refine ⟨(text, place), List.mem_filter.mpr ⟨?_, decide_eq_true hmatches⟩, rfl⟩
    exact List.mem_zipIdx_iff_getElem?.mpr hplace

variable {ranked : List (Nat × R)}

/-- A ranking holds the scores of the texts that match, only in another order. -/
theorem IsRanking.perm_placedScores (h : IsRanking settings texts query ranked) :
    ranked.Perm (placedScores settings texts query) := by
  have hnodup : (placedScores settings texts query).Nodup := by
    apply ascending_placedScores.imp
    intro a b hlt heq
    subst heq
    exact Nat.lt_irrefl _ hlt
  rw [List.perm_ext_iff_of_nodup (List.Nodup.of_map _ h.once) hnodup]
  rintro ⟨place, score⟩
  rw [h.mem_iff, mem_placedScores]

theorem le_refl (x : R) : Scalar.le x x = true := by
  simpa using Scalar.le_total x x

/-- An entry that no other one exceeds, and that comes before all of its score, is found first. -/
theorem find?_extreme {S : Type} (le : S → S → Bool) (before : Nat → Nat → Prop)
    {placed rest : List (Nat × S)} {best : Nat × S} (hrefl : ∀ x, le x x = true)
    (hasymm : ∀ i j, before i j → ¬ before j i) (hperm : (best :: rest).Perm placed)
    (hplaced : placed.Pairwise fun a b => before a.1 b.1)
    (hrest : ∀ entry ∈ rest, le entry.2 best.2 = true ∧
      (le best.2 entry.2 = true → before best.1 entry.1)) :
    ((placed.map Prod.snd).find? fun s => (placed.map Prod.snd).all (le · s)) = some best.2 := by
  have hbest : (placed.map Prod.snd).all (le · best.2) = true := by
    rw [List.all_map, List.all_eq_true]
    intro entry hentry
    rcases List.mem_cons.mp (hperm.mem_iff.mpr hentry) with rfl | hmem
    · exact hrefl _
    · exact (hrest entry hmem).1
  obtain ⟨front, back, hsplit⟩ := List.append_of_mem (hperm.mem_iff.mp List.mem_cons_self)
  rw [List.find?_eq_some_iff_append]
  refine ⟨hbest, front.map Prod.snd, back.map Prod.snd, by rw [hsplit, List.map_append]; rfl, ?_⟩
  -- an earlier entry found instead would have to come before the best one and behind it
  intro score hscore
  obtain ⟨entry, hentry, rfl⟩ := List.mem_map.mp hscore
  rw [Bool.not_eq_true', Bool.eq_false_iff]
  intro hall
  have hbefore : before entry.1 best.1 := by
    rw [hsplit] at hplaced
    exact (List.pairwise_append.mp hplaced).2.2 entry hentry best List.mem_cons_self
  have hle : le best.2 entry.2 = true := by
    rw [List.all_map, List.all_eq_true] at hall
    exact hall best (hperm.mem_iff.mp List.mem_cons_self)
  have hmem : entry ∈ placed := hsplit ▸ List.mem_append_left _ hentry
  rcases List.mem_cons.mp (hperm.mem_iff.mpr hmem) with rfl | hmem
  · exact hasymm _ _ hbefore hbefore
  · exact hasymm _ _ hbefore ((hrest entry hmem).2 hle)

/-- The head of a ranking has the greatest score. -/
theorem IsRanking.greatest_eq (h : IsRanking settings texts query ranked) {first : Nat × R}
    (hfirst : ranked.head? = some first) :
    Direct.greatest (Direct.scores settings texts query) = some first.2 := by
  obtain ⟨rest, hranked⟩ := List.head?_eq_some_iff.mp hfirst
  have hperm := h.perm_placedScores
  have hsorted := h.sorted
  rw [hranked] at hperm hsorted
  rw [← map_snd_placedScores]
  exact find?_extreme Scalar.le (· < ·) le_refl (fun _ _ => Nat.lt_asymm) hperm
    ascending_placedScores (List.pairwise_cons.mp hsorted).1

/-- The end of a ranking has the least score: turned around, the ranking has it at its head. -/
theorem IsRanking.least_eq (h : IsRanking settings texts query ranked) {final : Nat × R}
    (hfinal : ranked.getLast? = some final) :
    Direct.least (Direct.scores settings texts query) = some final.2 := by
  obtain ⟨rest, hranked⟩ := List.getLast?_eq_some_iff.mp hfinal
  have hperm := h.perm_placedScores
  have hsorted := h.sorted
  rw [hranked] at hperm hsorted
  have hreverse : (final :: rest).Perm (placedScores settings texts query).reverse :=
    (List.perm_append_singleton final rest).symm.trans
      (hperm.trans (List.reverse_perm _).symm)
  have hdescending : (placedScores settings texts query).reverse.Pairwise fun a b => b.1 < a.1 :=
    List.pairwise_reverse.mpr ascending_placedScores
  rw [← map_snd_placedScores]
  unfold Direct.least
  rw [← List.map_reverse]
  have hfind := find?_extreme (fun a b => Scalar.le b a) (fun i j => j < i) le_refl
    (fun _ _ => Nat.lt_asymm) hreverse hdescending
    (fun entry hentry => (List.pairwise_append.mp hsorted).2.2 entry hentry final (by simp))
  simpa using hfind

/-! ## Search -/

namespace Index

variable {documents : List Document} {index : Index}

/-- Of documents with different titles one entry of the ranking at most has the title of a document:
the one at the document's place. -/
theorem Represents.find?_title (h : index.Represents documents)
    (htitles : (documents.map Document.title).Nodup) {ranked : List (Nat × R)}
    (hranking : IsRanking settings (documents.map Document.content) query ranked)
    {document : Document} (hmem : document ∈ documents) :
    (ranked.find? (index.titles.getD ·.1 [] = document.title)).map Prod.snd =
      if Matches query document.content then
        some (Direct.score settings (documents.map Document.content) query document.content)
      else none := by
  have htitled := h.exists_titled_iff hranking document.title
  -- an entry of this title is the entry of this document
  have hentry : ∀ entry ∈ ranked, index.titles.getD entry.1 [] = document.title →
      Matches query document.content ∧
        entry.2 = Direct.score settings (documents.map Document.content) query document.content := by
    intro entry hentry htitle
    obtain ⟨document', hmem', hsame, hmatches, hscore⟩ :=
      (htitled entry.2).mp ⟨entry.1, hentry, htitle⟩
    rw [List.inj_on_of_nodup_map htitles hmem' hmem hsame] at hmatches hscore
    exact ⟨hmatches, hscore⟩
  split
  · rename_i hmatches
    obtain ⟨place, hfound, htitle⟩ := (htitled _).mpr ⟨document, hmem, rfl, hmatches, rfl⟩
    cases hfind : ranked.find? (index.titles.getD ·.1 [] = document.title) with
    | none => exact absurd (decide_eq_true htitle) (List.find?_eq_none.mp hfind _ hfound)
    | some entry =>
        have hsame := List.find?_some hfind
        rw [decide_eq_true_eq] at hsame
        rw [Option.map_some, (hentry entry (List.mem_of_find?_eq_some hfind) hsame).2]
  · rename_i hmatches
    rw [Option.map_eq_none_iff, List.find?_eq_none]
    intro entry hmem' htitle
    exact hmatches (hentry entry hmem' (of_decide_eq_true htitle)).1

/-- Of documents with different titles search gives each its normalised score, read off the documents
alone. -/
theorem Represents.getElem?_search_title (h : index.Represents documents)
    (htitles : (documents.map Document.title).Nodup) (settings : KeywordSettings R)
    (query : List Text) {document : Document} (hmem : document ∈ documents) :
    (index.search settings query)[document.title]? =
      Direct.normalised settings (documents.map Document.content) query document.content := by
  have hranking := h.isRanking_rawScores settings query
  have hlookup := h.find?_title htitles hranking hmem
  unfold Direct.normalised
  by_cases hnil : index.rawScores settings query = []
  · rw [hnil] at hlookup
    rw [search_of_rawScores_eq_nil hnil, Std.HashMap.getElem?_empty]
    by_cases hmatches : Matches query document.content
    · rw [if_pos hmatches] at hlookup
      cases hlookup
    · rw [if_neg hmatches]
  · -- the ends of the ranking are the ends of the scale
    have hrescale : ∀ score, Direct.rescale
        (Direct.scores settings (documents.map Document.content) query) score =
        normalise
          (if Scalar.below ((index.rawScores settings query).getLast hnil).2
            ((index.rawScores settings query).head hnil).2
          then ((index.rawScores settings query).getLast hnil).2 else Scalar.ofNat 0)
          ((index.rawScores settings query).head hnil).2 score := by
      intro score
      unfold Direct.rescale
      rw [hranking.greatest_eq (List.head?_eq_some_head hnil),
        hranking.least_eq (List.getLast?_eq_some_getLast hnil)]
      rfl
    rw [getElem?_search hnil, ← Function.comp_def _ Prod.snd, ← Option.map_map, hlookup, hrescale]
    by_cases hmatches : Matches query document.content
    · rw [if_pos hmatches, if_pos hmatches]
      rfl
    · rw [if_neg hmatches, if_neg hmatches]
      rfl

end Index

end CodeRetrieval.Lexical
