/-
# CodeRetrieval.Proofs.UnitScale — keyword scores on the unit scale.

With its parameters in their ranges the keyword score is a sum of products of positive numbers: the
rarity of a term is the logarithm of a number above one, and the denominator of its saturated frequency
is at least the frequency.  So no formula divides by zero, and every score is positive.  That is what
bringing the scores to the unit interval needs: the scale starts below the greatest score, at the least
one or at zero, and so it can be divided by its length and keeps the order of the scores.
-/
import CodeRetrieval.Proofs.CheckedNumbers
import CodeRetrieval.Proofs.TitleScores

namespace CodeRetrieval

/-- Keyword parameters for formulas that must not divide by zero. -/
def KeywordSettings.checked (settings : KeywordSettings Exact) : KeywordSettings Checked :=
  ⟨.of settings.k1, .of settings.b⟩

/-- The parameters lie in their ranges: the first is not negative, and the length of a document counts
between not at all and in full. -/
structure KeywordSettings.InRange (settings : KeywordSettings Exact) : Prop where
  k1_nonneg : 0 ≤ settings.k1.value
  b_nonneg : 0 ≤ settings.b.value
  b_le_one : settings.b.value ≤ 1

theorem KeywordSettings.inRange_standard : (KeywordSettings.standard).InRange := by
  constructor
  all_goals
    simp only [KeywordSettings.standard, Exact.value_ofScientific]
    norm_num

namespace Lexical

variable {settings : KeywordSettings Exact}

/-! ## Rarity and saturation -/

section Factors

variable {size holders frequency : Nat} {mean : Exact}

/-- The rarity is the logarithm of a number above one. -/
theorem one_lt_rarity_argument (h : holders ≤ size) :
    1 < ((Scalar.ofNat size - Scalar.ofNat holders + 0.5) / (Scalar.ofNat holders + 0.5) + 1.0 :
      Exact).value := by
  have hle : (holders : ℝ) ≤ size := Nat.cast_le.mpr h
  have hnonneg : (0 : ℝ) ≤ holders := Nat.cast_nonneg holders
  have hquotient : 0 < ((size : ℝ) - holders + 1 / 2) / (holders + 1 / 2) := by
    apply div_pos <;> linarith
  simp only [Exact.value_add, Exact.value_sub, Exact.value_div, Exact.value_ofNat, Exact.value_half,
    Exact.value_one]
  linarith

theorem rarity_pos (h : holders ≤ size) : 0 < (rarity size holders : Exact).value :=
  Real.log_pos (one_lt_rarity_argument h)

theorem rarity_checked (h : holders ≤ size) :
    (rarity size holders : Checked) = .of (rarity size holders) := by
  have hdenominator : 0 < (Scalar.ofNat holders + 0.5 : Exact).value := by
    have hnonneg : (0 : ℝ) ≤ holders := Nat.cast_nonneg holders
    rw [Exact.value_add, Exact.value_ofNat, Exact.value_half]
    linarith
  have hargument := one_lt_rarity_argument h
  unfold rarity
  simp only [Checked.of_ofNat, Checked.of_ofScientific, Checked.of_sub, Checked.of_add]
  rw [Checked.of_div hdenominator.ne', Checked.of_add, Checked.ln_of (by linarith)]

/-- The saturated frequency has a denominator of at least the frequency. -/
theorem saturation_denominator_pos (hrange : settings.InRange) (hmean : 0 < mean.value)
    (hfrequency : 0 < frequency) (length : Nat) :
    0 < (Scalar.ofNat frequency +
      settings.k1 * (1.0 - settings.b + settings.b * Scalar.ofNat length / mean)).value := by
  have hb := hrange.b_le_one
  have hratio : 0 ≤ settings.b.value * length / mean.value :=
    div_nonneg (mul_nonneg hrange.b_nonneg (Nat.cast_nonneg length)) hmean.le
  have hfactor : 0 ≤ 1 - settings.b.value + settings.b.value * length / mean.value := by linarith
  simp only [Exact.value_add, Exact.value_sub, Exact.value_mul, Exact.value_div, Exact.value_ofNat,
    Exact.value_one]
  exact add_pos_of_pos_of_nonneg (Nat.cast_pos.mpr hfrequency) (mul_nonneg hrange.k1_nonneg hfactor)

theorem saturation_pos (hrange : settings.InRange) (hmean : 0 < mean.value)
    (hfrequency : 0 < frequency) (length : Nat) :
    0 < (saturation settings mean frequency length).value := by
  apply div_pos _ (saturation_denominator_pos hrange hmean hfrequency length)
  rw [Exact.value_mul, Exact.value_add, Exact.value_ofNat, Exact.value_one]
  have hk1 := hrange.k1_nonneg
  exact mul_pos (Nat.cast_pos.mpr hfrequency) (by linarith)

theorem saturation_checked (hrange : settings.InRange) (hmean : 0 < mean.value)
    (hfrequency : 0 < frequency) (length : Nat) :
    saturation settings.checked (.of mean) frequency length =
      .of (saturation settings mean frequency length) := by
  have hdenominator := saturation_denominator_pos hrange hmean hfrequency length
  unfold saturation KeywordSettings.checked
  simp only [Checked.of_ofNat, Checked.of_ofScientific, Checked.of_mul, Checked.of_sub, Checked.of_add]
  rw [Checked.of_div hmean.ne', Checked.of_add, Checked.of_mul, Checked.of_add,
    Checked.of_div hdenominator.ne']

end Factors

/-! ## Scores of texts -/

namespace Direct

variable {texts : List Text} {query : List Text} {text term : Text}

theorem holders_le_length (texts : List Text) (term : Text) : holders texts term ≤ texts.length :=
  List.countP_le_length

theorem meanLength_pos (htext : text ∈ texts) (hterm : term ∈ Token.all text) :
    0 < (meanLength texts : Exact).value := by
  have htotal : 0 < Index.total (texts.map fun text => (Token.all text).length) :=
    Index.total_pos (List.mem_map_of_mem htext) (List.length_pos_of_mem hterm)
  exact div_pos (Nat.cast_pos.mpr htotal) (Nat.cast_pos.mpr (List.length_pos_of_mem htext))

theorem meanLength_checked (htext : text ∈ texts) :
    (meanLength texts : Checked) = .of (meanLength texts) := by
  have hlength : (Scalar.ofNat texts.length : Exact).value ≠ 0 :=
    (Nat.cast_pos.mpr (List.length_pos_of_mem htext)).ne'
  exact Checked.of_div hlength

/-- What a term adds is its rarity times its saturated frequency. -/
theorem termScore_eq {R : Type} [Scalar R] (settings : KeywordSettings R) (texts : List Text)
    (text term : Text) :
    termScore settings texts text term = rarity texts.length (holders texts term) *
      saturation settings (meanLength texts) ((Token.all text).count term) (Token.all text).length :=
  rfl

theorem termScore_pos (hrange : settings.InRange) (htext : text ∈ texts)
    (hterm : term ∈ Token.all text) : 0 < (termScore settings texts text term).value := by
  rw [termScore_eq, Exact.value_mul]
  exact mul_pos (rarity_pos (holders_le_length texts term))
    (saturation_pos hrange (meanLength_pos htext hterm) (List.count_pos_iff.mpr hterm) _)

theorem termScore_checked (hrange : settings.InRange) (htext : text ∈ texts)
    (hterm : term ∈ Token.all text) :
    termScore settings.checked texts text term = .of (termScore settings texts text term) := by
  rw [termScore_eq, termScore_eq, rarity_checked (holders_le_length texts term),
    meanLength_checked htext, saturation_checked hrange (meanLength_pos htext hterm)
      (List.count_pos_iff.mpr hterm), Checked.of_mul]

theorem mem_all_of_mem_heldTerms (h : term ∈ heldTerms query text) : term ∈ Token.all text :=
  List.contains_iff_mem.mp (List.mem_filter.mp h).2

/-- A text that matches has a positive score. -/
theorem score_pos (hrange : settings.InRange) (htext : text ∈ texts) (hmatches : Matches query text) :
    0 < (score settings texts query text).value := by
  apply Exact.sum_pos
  · intro amount hamount
    obtain ⟨term, hterm, rfl⟩ := List.mem_map.mp hamount
    exact termScore_pos hrange htext (mem_all_of_mem_heldTerms hterm)
  · rw [Ne, List.map_eq_nil_iff, heldTerms_eq_nil_iff]
    exact not_not_intro hmatches

theorem score_checked (hrange : settings.InRange) (htext : text ∈ texts) :
    score settings.checked texts query text = .of (score settings texts query text) := by
  have hterms : (heldTerms query text).map (termScore settings.checked texts text) =
      ((heldTerms query text).map (termScore settings texts text)).map .of := by
    rw [List.map_map, List.map_inj_left]
    intro term hterm
    exact termScore_checked hrange htext (mem_all_of_mem_heldTerms hterm)
  unfold score
  rw [hterms, Checked.sum_map_of]

end Direct

/-- Checked numbers give the same ranking, and all its scores are there. -/
theorem IsRanking.checked {texts query : List Text} {ranked : List (Nat × Exact)}
    (hrange : settings.InRange) (h : IsRanking settings texts query ranked) :
    IsRanking settings.checked texts query (ranked.map fun entry => (entry.1, Checked.of entry.2)) where
  mem_iff place score := by
    rw [List.mem_map]
    constructor
    · rintro ⟨entry, hmem, hentry⟩
      obtain ⟨rfl, rfl⟩ := Prod.mk.inj hentry
      obtain ⟨text, hplace, hmatches, hscore⟩ := (h.mem_iff entry.1 entry.2).mp hmem
      refine ⟨text, hplace, hmatches, ?_⟩
      rw [Direct.score_checked hrange (List.mem_of_getElem? hplace), hscore]
    · rintro ⟨text, hplace, hmatches, rfl⟩
      refine ⟨(place, Direct.score settings texts query text),
        (h.mem_iff _ _).mpr ⟨text, hplace, hmatches, rfl⟩, ?_⟩
      rw [Direct.score_checked hrange (List.mem_of_getElem? hplace)]
  once := by
    rw [List.map_map]
    exact h.once
  sorted := by
    simpa only [List.pairwise_map, Checked.of_le_of] using h.sorted

/-! ## The scale -/

namespace Index

section Scale

variable {lowest highest : Exact}

theorem value_normalise (h : lowest.value < highest.value) (score : Exact) :
    (normalise lowest highest score).value =
      (score.value - lowest.value) / (highest.value - lowest.value) := by
  have hbelow : Scalar.below (Scalar.ofNat 0) (highest - lowest) = true := by
    rw [Exact.below_iff, Exact.value_ofNat, Exact.value_sub, Nat.cast_zero]
    exact sub_pos.mpr h
  unfold normalise
  rw [if_pos hbelow]
  rfl

/-- The scale starts at a point that does not exceed the least score and lies below the greatest one; it
is the least score if there is a greater one. -/
theorem exists_start (hlowest : 0 < lowest.value) (hle : lowest.value ≤ highest.value) :
    ∃ start, start ≤ lowest.value ∧ start < highest.value ∧
      (lowest.value < highest.value → start = lowest.value) ∧
      ∀ score : Exact, (scale lowest highest score).value =
        (score.value - start) / (highest.value - start) := by
  unfold scale
  by_cases hlt : Scalar.below lowest highest = true
  · have hlt' := (Exact.below_iff _ _).mp hlt
    rw [if_pos hlt]
    exact ⟨lowest.value, le_rfl, hlt', fun _ => rfl, value_normalise hlt'⟩
  · -- all scores are the same, and the scale starts at zero
    have hzero : (Scalar.ofNat 0 : Exact).value = 0 := by rw [Exact.value_ofNat, Nat.cast_zero]
    have hstart : (Scalar.ofNat 0 : Exact).value < highest.value :=
      hzero.trans_lt (hlowest.trans_le hle)
    rw [if_neg hlt]
    refine ⟨(Scalar.ofNat 0 : Exact).value, hzero.trans_le hlowest.le, hstart, ?_,
      value_normalise hstart⟩
    exact fun h => absurd ((Exact.below_iff _ _).mpr h) hlt

end Scale

variable {documents : List Document} {index : Index} {query : List Text} {title : Text}

/-- Exact scores are told apart by their order. -/
theorem distinguishes_exact (index : Index) (settings : KeywordSettings Exact) (query : List Text) :
    index.Distinguishes settings query := by
  intro a _ b _ hle hge
  exact Exact.ext (le_antisymm ((Exact.le_iff _ _).mp hle) ((Exact.le_iff _ _).mp hge))

theorem Represents.rawScores_pos (h : index.Represents documents) (hrange : settings.InRange)
    (query : List Text) : ∀ entry ∈ index.rawScores settings query, 0 < entry.2.value := by
  rintro ⟨place, score⟩ hmem
  obtain ⟨text, hplace, hmatches, rfl⟩ :=
    ((h.isRanking_rawScores settings query).mem_iff place score).mp hmem
  exact Direct.score_pos hrange (List.mem_of_getElem? hplace) hmatches

/-- No formula of the ranking divides by zero. -/
theorem Represents.rawScores_checked (h : index.Represents documents) (hrange : settings.InRange)
    (query : List Text) : index.rawScores settings.checked query =
      (index.rawScores settings query).map fun entry => (entry.1, Checked.of entry.2) :=
  (h.isRanking_rawScores settings.checked query).eq
    ((h.isRanking_rawScores settings query).checked hrange)

/-- Search answers for a title with the place of its best score on a scale from `start` to the greatest
score. -/
structure Scaled (index : Index) (settings : KeywordSettings Exact) (query : List Text) (start : ℝ)
    (lowest highest : Exact) : Prop where
  ends : index.Ends settings query lowest highest
  start_le : start ≤ lowest.value
  start_lt : start < highest.value
  start_eq : lowest.value < highest.value → start = lowest.value
  answers : ∀ (title : Text) (best : Exact), index.Best settings query title best →
    ∃ x, (index.search settings query)[title]? = some x ∧
      x.value = (best.value - start) / (highest.value - start)

theorem Represents.exists_scaled (h : index.Represents documents) (hrange : settings.InRange)
    (hnil : index.rawScores settings query ≠ []) :
    ∃ start lowest highest, index.Scaled settings query start lowest highest := by
  have hends := ends_of_ne_nil hnil
  have hlowest := h.rawScores_pos hrange query _ (List.getLast_mem hnil)
  obtain ⟨_, hscored⟩ := hends.lowest_scored
  obtain ⟨start, hstart, hlt, heq, hscale⟩ :=
    exists_start hlowest ((Exact.le_iff _ _).mp (hends.le_highest _ _ hscored))
  refine ⟨start, _, _, hends, hstart, hlt, heq, ?_⟩
  intro title best hbest
  exact ⟨_, h.getElem?_search_of_best (index.distinguishes_exact settings query) hbest hends,
    hscale best⟩

/-- A title that search answers for has a best score, and so there is a scale. -/
theorem Represents.exists_best (h : index.Represents documents) (hrange : settings.InRange)
    (hmem : title ∈ index.search settings query) :
    (∃ best : Exact, index.Best settings query title best) ∧
      ∃ start lowest highest, index.Scaled settings query start lowest highest := by
  obtain ⟨best, _, _, hbest, _, _⟩ := h.getElem?_search_of_mem hmem
  obtain ⟨_, hentry, _⟩ := hbest.scored
  exact ⟨⟨best, hbest⟩, h.exists_scaled hrange (List.ne_nil_of_mem hentry)⟩

section Scaled

variable {start : ℝ} {lowest highest best best' : Exact} {title' : Text}

theorem Scaled.length_pos (h : index.Scaled settings query start lowest highest) :
    0 < highest.value - start := sub_pos.mpr h.start_lt

theorem Scaled.bounds (h : index.Scaled settings query start lowest highest) {score : Exact}
    (hscored : index.Scored settings query title score) :
    lowest.value ≤ score.value ∧ score.value ≤ highest.value :=
  ⟨(Exact.le_iff _ _).mp (h.ends.lowest_le title score hscored),
    (Exact.le_iff _ _).mp (h.ends.le_highest title score hscored)⟩

theorem Scaled.unit (h : index.Scaled settings query start lowest highest)
    (hbest : index.Best settings query title best) :
    ∃ x, (index.search settings query)[title]? = some x ∧ 0 ≤ x.value ∧ x.value ≤ 1 := by
  obtain ⟨x, hx, hvalue⟩ := h.answers title best hbest
  obtain ⟨hlow, hhigh⟩ := h.bounds hbest.scored
  have hstart := h.start_le
  refine ⟨x, hx, ?_⟩
  rw [hvalue, div_le_one h.length_pos]
  exact ⟨div_nonneg (by linarith) h.length_pos.le, by linarith⟩

/-- The greatest score is that of a title, and there it is the end of the scale. -/
theorem Scaled.exists_top (h : index.Scaled settings query start lowest highest) :
    ∃ title : Text, (index.search settings query)[title]? = some (Scalar.ofNat 1) := by
  obtain ⟨top, hscored⟩ := h.ends.highest_scored
  obtain ⟨x, hx, hvalue⟩ := h.answers top highest ⟨hscored, h.ends.le_highest top⟩
  rw [div_self h.length_pos.ne'] at hvalue
  refine ⟨top, hx.trans (congrArg some (Exact.ext ?_))⟩
  rw [hvalue, Exact.value_ofNat, Nat.cast_one]

theorem Scaled.lowest_lt (h : index.Scaled settings query start lowest highest)
    {a b : Nat × Exact} (ha : a ∈ index.rawScores settings query)
    (hb : b ∈ index.rawScores settings query) (hne : a.2 ≠ b.2) : lowest.value < highest.value := by
  obtain ⟨hlowa, hhigha⟩ := h.bounds (scored_of_mem ha)
  obtain ⟨hlowb, hhighb⟩ := h.bounds (scored_of_mem hb)
  by_contra hge
  apply hne
  apply Exact.ext
  linarith

/-- Where scores differ the scale starts at the least one. -/
theorem Scaled.bottom (h : index.Scaled settings query start lowest highest)
    (hlt : lowest.value < highest.value) (hbest : index.Best settings query title best)
    (hleast : ∀ entry ∈ index.rawScores settings query, best.value ≤ entry.2.value) :
    (index.search settings query)[title]? = some (Scalar.ofNat 0) := by
  obtain ⟨_, _, hlowest, _⟩ := h.ends.lowest_scored
  have hvalue : best.value = lowest.value :=
    le_antisymm (hleast _ hlowest) (h.bounds hbest.scored).1
  obtain ⟨x, hx, hx'⟩ := h.answers title best hbest
  rw [hvalue, h.start_eq hlt, sub_self, zero_div] at hx'
  refine hx.trans (congrArg some (Exact.ext ?_))
  rw [hx', Exact.value_ofNat, Nat.cast_zero]

/-- The scale keeps the order. -/
theorem Scaled.ordered (h : index.Scaled settings query start lowest highest)
    (hbest : index.Best settings query title best) (hbest' : index.Best settings query title' best') :
    ∃ x x' : Exact, (index.search settings query)[title]? = some x ∧
      (index.search settings query)[title']? = some x' ∧
      (best.value < best'.value ↔ x.value < x'.value) ∧
      (best.value = best'.value ↔ x.value = x'.value) := by
  obtain ⟨x, hx, hvalue⟩ := h.answers title best hbest
  obtain ⟨x', hx', hvalue'⟩ := h.answers title' best' hbest'
  refine ⟨x, x', hx, hx', ?_, ?_⟩
  · rw [hvalue, hvalue', div_lt_div_iff_of_pos_right h.length_pos, sub_lt_sub_iff_right]
  · rw [hvalue, hvalue', div_left_inj' h.length_pos.ne', sub_left_inj]

end Scaled

/-! ## Normalised scores -/

/-- The keyword scores are normalised: no formula divides by zero and every score is positive; search
answers with numbers of the unit interval, one of which is one; where not all scores are the same, it
answers zero for a title with least scores only; and it orders titles as their best scores do. -/
structure UnitScale (index : Index) (settings : KeywordSettings Exact) (query : List Text) : Prop where
  checked : index.rawScores settings.checked query =
    (index.rawScores settings query).map fun entry => (entry.1, Checked.of entry.2)
  positive : ∀ entry ∈ index.rawScores settings query, 0 < entry.2.value
  unit : ∀ (title : Text) (x : Exact), (index.search settings query)[title]? = some x →
    0 ≤ x.value ∧ x.value ≤ 1
  top : ∀ title : Text, title ∈ index.search settings query →
    ∃ top : Text, (index.search settings query)[top]? = some (Scalar.ofNat 1)
  bottom : ∀ a ∈ index.rawScores settings query, ∀ b ∈ index.rawScores settings query, a.2 ≠ b.2 →
    ∀ title : Text, title ∈ index.search settings query →
      (∀ score : Exact, index.Scored settings query title score →
        ∀ entry ∈ index.rawScores settings query, score.value ≤ entry.2.value) →
      (index.search settings query)[title]? = some (Scalar.ofNat 0)
  ordered : ∀ title title' : Text, title ∈ index.search settings query →
    title' ∈ index.search settings query →
    ∃ best best' x x' : Exact, index.Best settings query title best ∧
      index.Best settings query title' best' ∧
      (index.search settings query)[title]? = some x ∧
      (index.search settings query)[title']? = some x' ∧
      (best.value < best'.value ↔ x.value < x'.value) ∧
      (best.value = best'.value ↔ x.value = x'.value)

/-- With the parameters in their ranges the keyword scores of any documents are normalised. -/
theorem search_is_unitScale (hbuilt : Built documents index) (hrange : settings.InRange)
    (query : List Text) : index.UnitScale settings query := by
  have h := hbuilt.represents
  refine ⟨h.rawScores_checked hrange query, h.rawScores_pos hrange query, ?_, ?_, ?_, ?_⟩
  · intro title x hx
    have hmem : title ∈ index.search settings query := by
      rw [← Std.HashMap.isSome_getElem?_iff_mem, hx]
      rfl
    obtain ⟨⟨best, hbest⟩, _, _, _, hscaled⟩ := h.exists_best hrange hmem
    obtain ⟨x', hx', hunit⟩ := hscaled.unit hbest
    rw [hx, Option.some.injEq] at hx'
    exact hx' ▸ hunit
  · intro title hmem
    obtain ⟨_, _, _, _, hscaled⟩ := h.exists_best hrange hmem
    exact hscaled.exists_top
  · intro a ha b hb hne title hmem hleast
    obtain ⟨⟨best, hbest⟩, _, _, _, hscaled⟩ := h.exists_best hrange hmem
    exact hscaled.bottom (hscaled.lowest_lt ha hb hne) hbest (hleast best hbest.scored)
  · intro title title' hmem hmem'
    obtain ⟨⟨best, hbest⟩, _, _, _, hscaled⟩ := h.exists_best hrange hmem
    obtain ⟨⟨best', hbest'⟩, _⟩ := h.exists_best hrange hmem'
    obtain ⟨x, x', hordered⟩ := hscaled.ordered hbest hbest'
    exact ⟨best, best', x, x', hbest, hbest', hordered⟩

/-- Two documents of one title that hold a word, the second one among others. -/
def twoCaches : List Document :=
  [⟨['a', '.', 'r', 's'], ['c', 'a', 'c', 'h', 'e']⟩,
    ⟨['a', '.', 'r', 's'], ['c', 'a', 'c', 'h', 'e', ' ', 'i', 't']⟩]

/-- The better document of the title counts, and it is the best of all. -/
theorem search_twoCaches :
    (Built twoCaches (ofDocuments twoCaches) ∧ (KeywordSettings.standard).InRange) ∧
      ((ofDocuments twoCaches).search (KeywordSettings.standard : KeywordSettings Exact)
        [['c', 'a', 'c', 'h', 'e']])[['a', '.', 'r', 's']]? = some (Scalar.ofNat 1) := by
  have hbuilt := built_ofDocuments twoCaches
  have hscale := search_is_unitScale hbuilt KeywordSettings.inRange_standard [['c', 'a', 'c', 'h', 'e']]
  have hmem := hbuilt.represents.mem_search (KeywordSettings.standard : KeywordSettings Exact)
    [['c', 'a', 'c', 'h', 'e']]
  refine ⟨⟨hbuilt, KeywordSettings.inRange_standard⟩, ?_⟩
  obtain ⟨top, htop⟩ := hscale.top ['a', '.', 'r', 's']
    ((hmem _).mpr ⟨_, List.mem_cons_self, rfl, by decide +kernel⟩)
  -- there is only one title
  obtain ⟨document, hdocument, htitle, _⟩ := (hmem top).mp (by
    rw [← Std.HashMap.isSome_getElem?_iff_mem, htop]
    rfl)
  have honly : ∀ document ∈ twoCaches, document.title = ['a', '.', 'r', 's'] := by decide
  rwa [← htitle, honly document hdocument] at htop

end Index

end Lexical

end CodeRetrieval
