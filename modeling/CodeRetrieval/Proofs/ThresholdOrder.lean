/-
# CodeRetrieval.Proofs.ThresholdOrder — a higher threshold merges into fewer spans.

Two runs take the same spans, one of them with a higher threshold.  `Leads` says how far apart they can
come: the run with the lower threshold has finished at least as many spans, and each of its spans starts
no later than the one at the same place in the other run.  Where both have finished equally many, what
lies between the starts of their growing spans does not open with a closer.  That is what keeps the lead
when closers join: if the growing span of the lower run opens with a closer then the text before the
start of the other one is blank, so the other one opens with the same closer and joins too.
-/
import CodeRetrieval.Proofs.MergedSpans

namespace CodeRetrieval

/-! ## Lists that stay below another -/

/-- The first list is at least as long as the second, and no entry is above the one at its place. -/
inductive Below : List Nat → List Nat → Prop
  | nil (xs : List Nat) : Below xs []
  | cons {x y : Nat} {xs ys : List Nat} : x ≤ y → Below xs ys → Below (x :: xs) (y :: ys)

namespace Below

variable {xs ys : List Nat} {x y : Nat}

theorem length_le (h : Below xs ys) : ys.length ≤ xs.length := by
  induction h with
  | nil xs => exact Nat.zero_le xs.length
  | cons _ _ ih => exact Nat.succ_le_succ ih

theorem le_of_getElem? (h : Below xs ys) {i : Nat} (hx : xs[i]? = some x) (hy : ys[i]? = some y) :
    x ≤ y := by
  induction h generalizing i with
  | nil => simp at hy
  | cons hle _ ih =>
      cases i with
      | zero =>
          rw [List.getElem?_cons_zero, Option.some.injEq] at hx hy
          rw [← hx, ← hy]
          exact hle
      | succ i =>
          rw [List.getElem?_cons_succ] at hx hy
          exact ih hx hy

theorem append (h : Below xs ys) (more : List Nat) : Below (xs ++ more) ys := by
  induction h with
  | nil xs => exact .nil (xs ++ more)
  | cons hle _ ih => exact .cons hle ih

/-- An entry that bounds the first list may be added to the second as long as that is shorter. -/
theorem concat (h : Below xs ys) (hlength : ys.length < xs.length) (hbound : ∀ x ∈ xs, x ≤ y) :
    Below xs (ys ++ [y]) := by
  induction h with
  | nil xs =>
      cases xs with
      | nil => exact absurd hlength (Nat.lt_irrefl 0)
      | cons x xs => exact .cons (hbound x List.mem_cons_self) (.nil xs)
  | @cons x' y' xs ys hle hrest ih =>
      rw [List.forall_mem_cons] at hbound
      exact .cons hle (ih (Nat.lt_of_succ_lt_succ hlength) hbound.2)

theorem of_concat_right (h : Below xs (ys ++ [y])) : Below xs ys := by
  induction ys generalizing xs with
  | nil => exact .nil xs
  | cons y' ys ih =>
      cases h with
      | cons hle hrest => exact .cons hle (ih hrest)

theorem of_concat_left (h : Below (xs ++ [x]) ys) (hlength : ys.length ≤ xs.length) :
    Below xs ys := by
  induction xs generalizing ys with
  | nil =>
      cases ys with
      | nil => exact .nil []
      | cons => exact absurd hlength (Nat.not_succ_le_zero _)
  | cons x' xs ih =>
      cases h with
      | nil => exact .nil (x' :: xs)
      | cons hle hrest => exact .cons hle (ih hrest (Nat.le_of_succ_le_succ hlength))

theorem last_le (h : Below (xs ++ [x]) (ys ++ [y])) (hlength : xs.length = ys.length) : x ≤ y := by
  refine h.le_of_getElem? (i := xs.length) (by simp) ?_
  rw [hlength]
  simp

end Below

/-! ## Texts cut in two -/

/-- A text opens with a closer only if its first part does or is blank. -/
theorem opensWithCloser_of_append {a b : Text} (h : opensWithCloser (a ++ b) = true)
    (ha : opensWithCloser a = false) : opensWithCloser b = true := by
  unfold opensWithCloser Text.trimStart at h ha ⊢
  rw [List.dropWhile_append] at h
  cases htrim : a.dropWhile Unicode.isBlank with
  | nil => simpa [htrim] using h
  | cons c rest =>
      rw [htrim] at h ha
      have hopens : closers.contains c = true := h
      have hnot : closers.contains c = false := ha
      rw [hopens] at hnot
      cases hnot

theorem isSubstantial_of_suffix {c c' : Nat} {text : Text} (hc : c ≤ c')
    (h : isSubstantial c' text = true) (before : Text) : isSubstantial c (before ++ text) = true := by
  rw [isSubstantial_iff] at h ⊢
  obtain ⟨hcount, hlineFeed⟩ := h
  refine ⟨?_, List.mem_append_right before hlineFeed⟩
  unfold Text.nonBlankCount at hcount ⊢
  rw [List.countP_append]
  omega

namespace Coalescing

variable {source : Text} {c c' threshold : Nat} {state next low low' high high' : Coalescing}
  {span : Span}

/-! ## Where the spans of a run start -/

/-- Where the finished spans start, in order. -/
def finishedStarts (state : Coalescing) : List Nat := (state.finished.map Span.start).reverse

/-- Where all spans start, the growing one last. -/
def allStarts (state : Coalescing) : List Nat := state.finishedStarts ++ [state.growing.start]

@[simp]
theorem length_finishedStarts (state : Coalescing) :
    state.finishedStarts.length = state.finished.length := by
  simp [finishedStarts]

@[simp]
theorem length_allStarts (state : Coalescing) :
    state.allStarts.length = state.finished.length + 1 := by
  simp [allStarts]

/-- Finishing a span adds where it ends to the starts. -/
theorem allStarts_finished (state : Coalescing) (span : Span) :
    allStarts ⟨state.growing.reach span :: state.finished, Span.emptyAt span.stop⟩ =
      state.allStarts ++ [span.stop] := by
  simp [allStarts, finishedStarts, Span.emptyAt]

/-- Joining a finished span keeps its start; the next span starts where the joined one ends. -/
theorem allStarts_joined {previous : Span} {earlier : List Span}
    (h : state.finished = previous :: earlier) (span : Span) :
    allStarts ⟨previous.reach span :: earlier, Span.emptyAt span.stop⟩ =
      state.finishedStarts ++ [span.stop] := by
  simp [allStarts, finishedStarts, h, Span.emptyAt]

theorem Starts.of_mem_allStarts {P : Nat → Prop} (h : Starts P state) {offset : Nat}
    (hoffset : offset ∈ state.allStarts) : P offset := by
  unfold allStarts finishedStarts at hoffset
  rw [List.mem_append, List.mem_reverse, List.mem_map, List.mem_singleton] at hoffset
  rcases hoffset with ⟨s, hs, rfl⟩ | rfl
  · exact h.2 s hs
  · exact h.1

theorem Taken.length_finished_le (h : Taken source threshold state span next) :
    state.finished.length ≤ next.finished.length := by
  cases h with
  | joined hfinished => rw [hfinished]; exact Nat.le_refl _
  | finished => exact Nat.le_succ _
  | grown => exact Nat.le_refl _

/-- Unless its growing span joins, a run keeps all its starts and adds one at most. -/
theorem Taken.below_of_not_joins (h : Taken source threshold state span next)
    (hjoins : ¬ Joins source state span) {ys : List Nat} (hbelow : Below state.allStarts ys) :
    Below next.allStarts ys := by
  cases h with
  | joined hfinished hcloser => exact absurd ⟨hcloser, by simp [hfinished]⟩ hjoins
  | finished =>
      rw [allStarts_finished]
      exact hbelow.append _
  | grown => exact hbelow

/-- A run keeps the starts of its finished spans. -/
theorem Taken.below (h : Taken source threshold state span next) {ys : List Nat}
    (hbelow : Below state.allStarts ys) (hlength : ys.length ≤ state.finished.length) :
    Below next.allStarts ys := by
  by_cases hjoins : Joins source state span
  · have hfinished : Below state.finishedStarts ys :=
      hbelow.of_concat_left (by rw [length_finishedStarts]; exact hlength)
    cases h with
    | joined hcons =>
        rw [allStarts_joined hcons]
        exact hfinished.append _
    | finished hnot => exact absurd hjoins hnot
    | grown hnot => exact absurd hjoins hnot
  · exact h.below_of_not_joins hjoins hbelow

/-! ## Where growing spans start -/

theorem text_emptyAt (source : Text) (offset : Nat) : (Span.emptyAt offset).text source = [] := by
  by_contra h
  exact absurd (Span.lt_of_text_ne_nil h) (Nat.lt_irrefl offset)

/-- Growing spans start between two characters, even if spans that were taken do not end there. -/
theorem Taken.edge (h : Taken source threshold state span next)
    (hstate : source.Edge state.growing.start) : source.Edge next.growing.start := by
  cases h with
  | joined _ hcloser =>
      exact (Span.edges_of_text_ne_nil (text_ne_nil_of_opensWithCloser hcloser)).2
  | finished _ hsubstantial =>
      exact (Span.edges_of_text_ne_nil (text_ne_nil_of_isSubstantial hsubstantial)).2
  | grown => exact hstate

/-- Behind a finished span, what a growing span covers of the spans taken opens with no closer. -/
theorem Taken.opens (h : Taken source threshold state span next) (hfinished : next.finished ≠ []) :
    opensWithCloser (Span.text ⟨next.growing.start, span.stop⟩ source) = false := by
  have hempty : opensWithCloser ((Span.emptyAt span.stop).text source) = false := by
    rw [text_emptyAt]
    rfl
  cases h with
  | joined => exact hempty
  | finished => exact hempty
  | grown hjoins =>
      rw [Bool.eq_false_iff]
      intro hcloser
      exact hjoins ⟨hcloser, hfinished⟩

/-! ## Two runs -/

/-- The run `low` has at least as many spans as the run `high`, and none of them starts later than the
one at its place there.  With equally many finished spans, nothing between the starts of the growing ones
opens with a closer. -/
structure Leads (source : Text) (low high : Coalescing) : Prop where
  below : Below low.allStarts high.allStarts
  level : low.finished.length = high.finished.length →
    opensWithCloser (Span.text ⟨low.growing.start, high.growing.start⟩ source) = false
  lowEdge : source.Edge low.growing.start
  highEdge : source.Edge high.growing.start

theorem leads_initial (source : Text) : Leads source initial initial := by
  have hedge : source.Edge initial.growing.start := ⟨[], source, rfl, rfl⟩
  refine ⟨.cons (Nat.le_refl 0) (.nil []), ?_, hedge, hedge⟩
  intro _
  show opensWithCloser ((Span.emptyAt 0).text source) = false
  rw [text_emptyAt]
  rfl

namespace Leads

theorem length_le (h : Leads source low high) : high.finished.length ≤ low.finished.length := by
  have hlength := h.below.length_le
  rw [length_allStarts, length_allStarts] at hlength
  omega

/-- With equally many finished spans, the growing span of `low` covers that of `high` and what lies
before it. -/
theorem text_eq (h : Leads source low high) (hlevel : low.finished.length = high.finished.length)
    (hbound : high.growing.start ≤ span.stop) (hedge : source.Edge span.stop) :
    (low.growing.reach span).text source =
      Span.text ⟨low.growing.start, high.growing.start⟩ source ++
        (high.growing.reach span).text source := by
  have hle : low.growing.start ≤ high.growing.start := h.below.last_le (by simpa using hlevel)
  exact Span.text_split h.lowEdge h.highEdge hedge hle hbound

/-- What makes `high` finish a span is enough for `low`. -/
theorem substantial (h : Leads source low high) (hc : c ≤ c')
    (hlevel : low.finished.length = high.finished.length) (hbound : high.growing.start ≤ span.stop)
    (hhigh : isSubstantial c' ((high.growing.reach span).text source) = true) :
    isSubstantial c ((low.growing.reach span).text source) = true := by
  have hedge := (Span.edges_of_text_ne_nil (text_ne_nil_of_isSubstantial hhigh)).2
  rw [h.text_eq hlevel hbound hedge]
  exact isSubstantial_of_suffix hc hhigh _

/-- A closer that joins in `low` joins in `high`. -/
theorem joins (h : Leads source low high) (hlevel : low.finished.length = high.finished.length)
    (hbound : high.growing.start ≤ span.stop) (hlow : Joins source low span) :
    Joins source high span := by
  obtain ⟨hcloser, hfinished⟩ := hlow
  have hedge := (Span.edges_of_text_ne_nil (text_ne_nil_of_opensWithCloser hcloser)).2
  rw [h.text_eq hlevel hbound hedge] at hcloser
  refine ⟨opensWithCloser_of_append hcloser (h.level hlevel), ?_⟩
  rw [← List.length_pos_iff] at hfinished ⊢
  omega

section Step

variable (h : Leads source low high) (hlow : Taken source c low span low')
  (hbound : high.growing.start ≤ span.stop) (hjoins : ¬ Joins source high span)

include h hlow hbound hjoins

/-- Where `high` does not join, `low` gives up none of the starts that `high` has. -/
theorem keeps : Below low'.allStarts high.allStarts := by
  rcases Nat.lt_or_eq_of_le h.length_le with hlt | heq
  · apply hlow.below h.below
    rw [length_allStarts]
    exact hlt
  · exact hlow.below_of_not_joins (fun hjoin => hjoins (h.joins heq.symm hbound hjoin)) h.below

/-- Where `high` finishes a span, `low` does too if both had finished equally many. -/
theorem gains (hc : c ≤ c')
    (hsubstantial : isSubstantial c' ((high.growing.reach span).text source) = true) :
    high.finished.length < low'.finished.length := by
  rcases Nat.lt_or_eq_of_le h.length_le with hlt | heq
  · exact Nat.lt_of_lt_of_le hlt hlow.length_finished_le
  · have hnot : ¬ Joins source low span := fun hjoin => hjoins (h.joins heq.symm hbound hjoin)
    have henough := h.substantial hc heq.symm hbound hsubstantial
    cases hlow with
    | joined hfinished hcloser => exact absurd ⟨hcloser, by simp [hfinished]⟩ hnot
    | finished =>
        show high.finished.length < low.finished.length + 1
        omega
    | grown _ hgrown =>
        rw [henough] at hgrown
        cases hgrown

/-- Where `high` grows, equally many finished spans mean that `low` grows as well. -/
theorem level_of_grown (hlevel : low'.finished.length = high.finished.length) :
    opensWithCloser (Span.text ⟨low'.growing.start, high.growing.start⟩ source) = false := by
  have heq : low.finished.length = high.finished.length := by
    have hle := h.length_le
    have hgain := hlow.length_finished_le
    omega
  cases hlow with
  | joined hfinished hcloser =>
      exact absurd (h.joins heq hbound ⟨hcloser, by simp [hfinished]⟩) hjoins
  | finished =>
      have hlevel' : low.finished.length + 1 = high.finished.length := hlevel
      omega
  | grown => exact h.level heq

end Step

/-- Taking one more span in both runs keeps the lead. -/
theorem step (h : Leads source low high) (hc : c ≤ c') (hlow : Taken source c low span low')
    (hhigh : Taken source c' high span high') (hlowStarts : Starts (· ≤ span.stop) low)
    (hhighStarts : Starts (· ≤ span.stop) high) : Leads source low' high' := by
  have hbound := hhighStarts.1
  have hbelow : ∀ offset ∈ low'.allStarts, offset ≤ span.stop := fun offset hoffset =>
    (hlow.starts hlowStarts (Nat.le_refl _)).of_mem_allStarts hoffset
  have hlowEdge := hlow.edge h.lowEdge
  have hhighEdge := hhigh.edge h.highEdge
  cases hhigh with
  | @joined previous earlier hfinished hcloser =>
      have hle := h.length_le
      have hgain := hlow.length_finished_le
      refine ⟨?_, ?_, hlowEdge, hhighEdge⟩
      · rw [allStarts_joined hfinished]
        refine (hlow.below h.below.of_concat_right ?_).concat ?_ hbelow
        · rw [length_finishedStarts]
          exact hle
        · rw [length_finishedStarts, length_allStarts]
          omega
      · intro hlevel
        apply hlow.opens
        rw [← List.length_pos_iff]
        have hpos : 0 < (previous.reach span :: earlier).length := Nat.succ_pos _
        exact hlevel ▸ hpos
  | finished hjoins hsubstantial =>
      have hgains := h.gains hlow hbound hjoins hc hsubstantial
      refine ⟨?_, ?_, hlowEdge, hhighEdge⟩
      · rw [allStarts_finished]
        refine (h.keeps hlow hbound hjoins).concat ?_ hbelow
        rw [length_allStarts, length_allStarts]
        omega
      · intro hlevel
        apply hlow.opens
        rw [← List.length_pos_iff]
        omega
  | grown hjoins =>
      exact ⟨h.keeps hlow hbound hjoins, h.level_of_grown hlow hbound hjoins, hlowEdge, hhighEdge⟩

end Leads

/-- Taking spans whose ends do not decrease keeps the lead. -/
theorem leads_foldl (hc : c ≤ c') {spans : List Span} (h : Leads source low high)
    (hascending : spans.Pairwise fun a b => a.stop ≤ b.stop)
    (hlow : ∀ s ∈ spans, Starts (· ≤ s.stop) low) (hhigh : ∀ s ∈ spans, Starts (· ≤ s.stop) high) :
    Leads source (spans.foldl (Coalescing.step source c) low)
      (spans.foldl (Coalescing.step source c') high) := by
  induction spans generalizing low high with
  | nil => exact h
  | cons span rest ih =>
      rw [List.pairwise_cons] at hascending
      rw [List.forall_mem_cons] at hlow hhigh
      have hlowTaken := taken_step source c low span
      have hhighTaken := taken_step source c' high span
      apply ih (h.step hc hlowTaken hhighTaken hlow.1 hhigh.1) hascending.2
      · intro s hs
        exact hlowTaken.starts (hlow.2 s hs) (hascending.1 s hs)
      · intro s hs
        exact hhighTaken.starts (hhigh.2 s hs) (hascending.1 s hs)

theorem growing_stop_foldl (state : Coalescing) (spans : List Span) (last : Span) :
    ((spans ++ [last]).foldl (Coalescing.step source threshold) state).growing.stop =
      last.stop := by
  rw [List.foldl_append]
  exact (taken_step source threshold _ last).growing_stop

theorem map_start_spans_of_isEmpty (h : state.growing.isEmpty = true) :
    state.spans.map Span.start = state.finishedStarts := by
  rw [spans_of_isEmpty h, List.map_reverse]
  rfl

theorem map_start_spans_of_not_isEmpty (h : ¬ state.growing.isEmpty = true) :
    state.spans.map Span.start = state.allStarts := by
  rw [spans_of_not_isEmpty h, List.map_append, List.map_reverse]
  rfl

/-- The lead holds of the spans that the two runs leave, if their growing spans end together. -/
theorem Leads.below_spans (h : Leads source low high)
    (hstop : low.growing.stop = high.growing.stop) :
    Below (low.spans.map Span.start) (high.spans.map Span.start) := by
  have hle := h.length_le
  by_cases hhigh : high.growing.isEmpty = true
  · rw [map_start_spans_of_isEmpty hhigh]
    have hfinished : Below low.allStarts high.finishedStarts := h.below.of_concat_right
    by_cases hlow : low.growing.isEmpty = true
    · rw [map_start_spans_of_isEmpty hlow]
      apply hfinished.of_concat_left
      rw [length_finishedStarts, length_finishedStarts]
      exact hle
    · rw [map_start_spans_of_not_isEmpty hlow]
      exact hfinished
  · rw [map_start_spans_of_not_isEmpty hhigh]
    by_cases hlow : low.growing.isEmpty = true
    · -- `low` has nothing left to grow where `high` has, so it has finished more spans
      have hlt : high.finished.length < low.finished.length := by
        rcases Nat.lt_or_eq_of_le hle with hlt | heq
        · exact hlt
        · have hstart : low.growing.start ≤ high.growing.start :=
            h.below.last_le (by simpa using heq.symm)
          rw [Span.isEmpty_iff] at hlow hhigh
          omega
      rw [map_start_spans_of_isEmpty hlow]
      apply h.below.of_concat_left
      rw [length_finishedStarts, length_allStarts]
      exact hlt
    · rw [map_start_spans_of_not_isEmpty hlow]
      exact h.below

end Coalescing

/-- A higher threshold leaves at most as many merged spans, and none of them starts earlier than the one
at its place under the lower threshold, as long as no span ends before an earlier one does. -/
theorem coalesce_antitone (source : Text) {c c' : Nat} (hc : c ≤ c') {spans : List Span}
    (hascending : spans.Pairwise fun a b => a.stop ≤ b.stop) :
    (coalesce c' source spans).length ≤ (coalesce c source spans).length ∧
      ∀ (i : Nat) (a b : Span), (coalesce c source spans)[i]? = some a →
        (coalesce c' source spans)[i]? = some b → a.start ≤ b.start := by
  have hbelow : Below ((coalesce c source spans).map Span.start)
      ((coalesce c' source spans).map Span.start) := by
    rcases List.eq_nil_or_concat spans with rfl | ⟨front, last, rfl⟩
    · exact .nil []
    · rw [List.concat_eq_append] at hascending ⊢
      have hinitial : ∀ s ∈ front ++ [last],
          Coalescing.Starts (· ≤ s.stop) Coalescing.initial :=
        fun s _ => ⟨Nat.zero_le s.stop, by simp [Coalescing.initial]⟩
      have hleads := Coalescing.leads_foldl hc (Coalescing.leads_initial source) hascending
        hinitial hinitial
      apply hleads.below_spans
      rw [Coalescing.growing_stop_foldl, Coalescing.growing_stop_foldl]
  refine ⟨?_, ?_⟩
  · have hlength := hbelow.length_le
    rwa [List.length_map, List.length_map] at hlength
  · intro i a b ha hb
    apply hbelow.le_of_getElem? (i := i)
    · rw [List.getElem?_map, ha]
      rfl
    · rw [List.getElem?_map, hb]
      rfl

example : coalesce 3 Text.closerLine Text.closerLineSpans = [⟨0, 10⟩, ⟨10, 12⟩] := by decide

theorem coalesce_closerLine_antitone :
    (1 ≤ 3 ∧ Text.closerLineSpans.Pairwise fun a b => a.stop ≤ b.stop) ∧
      (coalesce 3 Text.closerLine Text.closerLineSpans).length ≤
        (coalesce 1 Text.closerLine Text.closerLineSpans).length ∧
      ∀ (i : Nat) (a b : Span), (coalesce 1 Text.closerLine Text.closerLineSpans)[i]? = some a →
        (coalesce 3 Text.closerLine Text.closerLineSpans)[i]? = some b → a.start ≤ b.start := by
  have hascending : Text.closerLineSpans.Pairwise fun a b => a.stop ≤ b.stop := by decide
  exact ⟨⟨by decide, hascending⟩, coalesce_antitone Text.closerLine (by decide) hascending⟩

end CodeRetrieval
