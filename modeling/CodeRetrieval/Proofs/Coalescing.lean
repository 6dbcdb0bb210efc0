/-
# CodeRetrieval.Proofs.Coalescing — merged spans are laid end to end.

Whatever spans are merged, in whatever order they come, the finished ones follow each other from offset
zero and hold at least one byte each, because only a span with a text is ever finished or joined.  So
the merged spans run from zero to the end of the last span that was taken, provided the source ends
there or before.  No merged span starts anywhere but at zero or where a span before the last one ended:
merging removes boundaries and adds none.

A second merging changes nothing.  What makes a span finished stays true of it when closers join it, so
merged spans are decided the same way again: `Settled` says what a state has to satisfy for that.
-/
import CodeRetrieval.Chunking.Coalescing
import CodeRetrieval.Proofs.Span
import Mathlib.Data.List.TakeWhile

namespace CodeRetrieval

theorem text_ne_nil_of_opensWithCloser {text : Text} (h : opensWithCloser text = true) :
    text ≠ [] := by
  rintro rfl
  exact absurd h (by decide)

theorem text_ne_nil_of_isSubstantial {threshold : Nat} {text : Text}
    (h : isSubstantial threshold text = true) : text ≠ [] := by
  rintro rfl
  simp [isSubstantial] at h

/-- More text keeps a text substantial. -/
theorem isSubstantial_append {threshold : Nat} {text : Text}
    (h : isSubstantial threshold text = true) (more : Text) :
    isSubstantial threshold (text ++ more) = true := by
  unfold isSubstantial at h ⊢
  rw [Bool.and_eq_true, decide_eq_true_eq] at h ⊢
  obtain ⟨hcount, hlineFeed⟩ := h
  refine ⟨?_, ?_⟩
  · unfold Text.nonBlankCount at hcount ⊢
    rw [List.countP_append]
    omega
  · rw [List.contains_iff_mem] at hlineFeed ⊢
    exact List.mem_append_left _ hlineFeed

/-- A substantial text opens with the same character whatever follows it. -/
theorem opensWithCloser_append {threshold : Nat} {text : Text}
    (h : isSubstantial threshold text = true) (more : Text) :
    opensWithCloser (text ++ more) = opensWithCloser text := by
  have hcount : 0 < text.nonBlankCount := by
    unfold isSubstantial at h
    rw [Bool.and_eq_true, decide_eq_true_eq] at h
    omega
  obtain ⟨c, hc, hblank⟩ := List.countP_pos_iff.mp hcount
  have hne : text.trimStart ≠ [] := by
    intro hnil
    have hall := List.dropWhile_eq_nil_iff.mp hnil c hc
    rw [hall] at hblank
    exact absurd hblank (by decide)
  obtain ⟨d, rest, htrim⟩ := List.exists_cons_of_ne_nil hne
  have happend : (text ++ more).trimStart = d :: (rest ++ more) := by
    unfold Text.trimStart at htrim ⊢
    rw [List.dropWhile_append, htrim]
    rfl
  unfold opensWithCloser
  rw [happend, htrim]

namespace Coalescing

variable {source : Text} {threshold : Nat} {state next : Coalescing} {span : Span}

/-! ## One step -/

/-- Whether the span that grows by `span` joins the finished span before it. -/
def Joins (source : Text) (state : Coalescing) (span : Span) : Prop :=
  opensWithCloser ((state.growing.reach span).text source) = true ∧ state.finished ≠ []

/-- All that taking one more span can come to. -/
inductive Taken (source : Text) (threshold : Nat) (state : Coalescing) (span : Span) :
    Coalescing → Prop
  | joined {previous : Span} {earlier : List Span} :
      state.finished = previous :: earlier →
      opensWithCloser ((state.growing.reach span).text source) = true →
      Taken source threshold state span ⟨previous.reach span :: earlier, Span.emptyAt span.stop⟩
  | finished :
      ¬ Joins source state span →
      isSubstantial threshold ((state.growing.reach span).text source) = true →
      Taken source threshold state span
        ⟨state.growing.reach span :: state.finished, Span.emptyAt span.stop⟩
  | grown :
      ¬ Joins source state span →
      isSubstantial threshold ((state.growing.reach span).text source) = false →
      Taken source threshold state span ⟨state.finished, state.growing.reach span⟩

theorem taken_step (source : Text) (threshold : Nat) (state : Coalescing) (span : Span) :
    Taken source threshold state span (step source threshold state span) := by
  simp only [step]
  split
  · rename_i previous earlier hcloser hfinished
    exact .joined hfinished hcloser
  · rename_i hnot
    have hjoins : ¬ Joins source state span := by
      rintro ⟨hcloser, hfinished⟩
      obtain ⟨previous, earlier, hcons⟩ := List.exists_cons_of_ne_nil hfinished
      exact hnot previous earlier hcloser hcons
    split
    · rename_i hsubstantial
      exact .finished hjoins hsubstantial
    · rename_i hsubstantial
      exact .grown hjoins (Bool.eq_false_iff.mpr hsubstantial)

/-- The span that grows always ends where the last span taken ends. -/
theorem Taken.growing_stop (h : Taken source threshold state span next) :
    next.growing.stop = span.stop := by
  cases h <;> rfl

/-! ## The finished spans -/

/-- The finished spans run from zero to the start of the growing one, which lies in the source. -/
structure Sound (source : Text) (state : Coalescing) : Prop where
  contiguous : Contiguous 0 state.growing.start state.finished.reverse
  inside : state.growing.start ≤ source.size

theorem sound_initial (source : Text) : Sound source initial := ⟨rfl, Nat.zero_le _⟩

theorem Taken.sound (h : Taken source threshold state span next) (hstate : Sound source state) :
    Sound source next := by
  have htext : (state.growing.reach span).text source ≠ [] →
      state.growing.start < span.stop ∧ span.stop ≤ source.size := by
    intro hne
    have hlt := Span.lt_of_text_ne_nil hne
    have hle := Span.stop_le_of_text_ne_nil hne
    exact ⟨hlt, hle⟩
  cases h with
  | @joined previous earlier hfinished hcloser =>
      obtain ⟨hlt, hle⟩ := htext (text_ne_nil_of_opensWithCloser hcloser)
      refine ⟨?_, hle⟩
      have hcontiguous := hstate.contiguous
      rw [hfinished, List.reverse_cons, contiguous_append] at hcontiguous
      obtain ⟨middle, hearlier, rfl, hprevious, hstop⟩ := hcontiguous
      rw [List.reverse_cons]
      refine Contiguous.concat (s := previous.reach span) hearlier ?_ rfl
      have hstop' : previous.stop = state.growing.start := hstop
      show previous.start < span.stop
      omega
  | finished _ hsubstantial =>
      obtain ⟨hlt, hle⟩ := htext (text_ne_nil_of_isSubstantial hsubstantial)
      refine ⟨?_, hle⟩
      rw [List.reverse_cons]
      exact Contiguous.concat (s := state.growing.reach span) hstate.contiguous hlt rfl
  | grown => exact ⟨hstate.contiguous, hstate.inside⟩

theorem sound_foldl (h : Sound source state) (spans : List Span) :
    Sound source (spans.foldl (step source threshold) state) := by
  induction spans generalizing state with
  | nil => exact h
  | cons span spans ih => exact ih ((taken_step source threshold state span).sound h)

theorem spans_of_isEmpty (h : state.growing.isEmpty = true) :
    state.spans = state.finished.reverse := by
  unfold spans
  rw [if_pos h]

theorem spans_of_not_isEmpty (h : ¬ state.growing.isEmpty = true) :
    state.spans = state.finished.reverse ++ [state.growing] := by
  unfold spans
  rw [if_neg h, List.reverse_cons]

/-- The spans reach the end of the growing one, if that is not inverted. -/
theorem contiguous_spans (h : Sound source state)
    (hle : state.growing.start ≤ state.growing.stop) :
    Contiguous 0 state.growing.stop state.spans := by
  by_cases hempty : state.growing.isEmpty = true
  · have hstart : state.growing.start = state.growing.stop := by
      have := Span.isEmpty_iff.mp hempty
      omega
    rw [spans_of_isEmpty hempty, ← hstart]
    exact h.contiguous
  · rw [spans_of_not_isEmpty hempty]
    rw [Span.isEmpty_iff] at hempty
    exact Contiguous.concat h.contiguous (by omega) rfl

theorem exists_contiguous_spans (h : Sound source state) :
    ∃ stop, Contiguous 0 stop state.spans := by
  by_cases hle : state.growing.start ≤ state.growing.stop
  · exact ⟨_, contiguous_spans h hle⟩
  · have hempty : state.growing.isEmpty = true := by
      rw [Span.isEmpty_iff]
      omega
    rw [spans_of_isEmpty hempty]
    exact ⟨_, h.contiguous⟩

/-! ## Where spans start -/

/-- Every span so far starts at an offset with the property, the growing one too. -/
def Starts (P : Nat → Prop) (state : Coalescing) : Prop :=
  P state.growing.start ∧ ∀ s ∈ state.finished, P s.start

theorem Taken.starts {P : Nat → Prop} (h : Taken source threshold state span next)
    (hstate : Starts P state) (hspan : P span.stop) : Starts P next := by
  obtain ⟨hgrowing, hfinished⟩ := hstate
  cases h with
  | joined hcons =>
      rw [hcons, List.forall_mem_cons] at hfinished
      exact ⟨hspan, List.forall_mem_cons.mpr hfinished⟩
  | finished => exact ⟨hspan, List.forall_mem_cons.mpr ⟨hgrowing, hfinished⟩⟩
  | grown => exact ⟨hgrowing, hfinished⟩

theorem starts_foldl (source : Text) (threshold : Nat) {P : Nat → Prop} {spans : List Span}
    (h : Starts P state) (hspans : ∀ s ∈ spans, P s.stop) :
    Starts P (spans.foldl (step source threshold) state) := by
  induction spans generalizing state with
  | nil => exact h
  | cons span spans ih =>
      rw [List.forall_mem_cons] at hspans
      exact ih ((taken_step source threshold state span).starts h hspans.1) hspans.2

/-- The last span taken may end anywhere: what grows behind it is empty and not among the spans. -/
theorem Taken.start_of_mem_spans {P : Nat → Prop} (h : Taken source threshold state span next)
    (hstate : Starts P state) {s : Span} (hs : s ∈ next.spans) : P s.start := by
  obtain ⟨hgrowing, hfinished⟩ := hstate
  have hempty : (Span.emptyAt span.stop).isEmpty = true := by simp [Span.isEmpty]
  unfold spans at hs
  cases h with
  | joined hcons =>
      rw [hcons, List.forall_mem_cons] at hfinished
      rw [if_pos hempty, List.mem_reverse, List.mem_cons] at hs
      rcases hs with rfl | hs
      · exact hfinished.1
      · exact hfinished.2 s hs
  | finished =>
      rw [if_pos hempty, List.mem_reverse, List.mem_cons] at hs
      rcases hs with rfl | hs
      · exact hgrowing
      · exact hfinished s hs
  | grown =>
      split at hs
      · exact hfinished s (List.mem_reverse.mp hs)
      · rw [List.mem_reverse, List.mem_cons] at hs
        rcases hs with rfl | hs
        · exact hgrowing
        · exact hfinished s hs

/-! ## Decided spans -/

theorem step_finished (hjoins : ¬ Joins source state span)
    (h : isSubstantial threshold ((state.growing.reach span).text source) = true) :
    step source threshold state span =
      ⟨state.growing.reach span :: state.finished, Span.emptyAt span.stop⟩ := by
  generalize hnext : step source threshold state span = next
  cases hnext ▸ taken_step source threshold state span with
  | joined hfinished hcloser => exact absurd ⟨hcloser, by simp [hfinished]⟩ hjoins
  | finished => rfl
  | grown _ hnot => simp [hnot] at h

theorem step_grown (hjoins : ¬ Joins source state span)
    (h : isSubstantial threshold ((state.growing.reach span).text source) = false) :
    step source threshold state span = ⟨state.finished, state.growing.reach span⟩ := by
  generalize hnext : step source threshold state span = next
  cases hnext ▸ taken_step source threshold state span with
  | joined hfinished hcloser => exact absurd ⟨hcloser, by simp [hfinished]⟩ hjoins
  | finished _ hsubstantial => simp [hsubstantial] at h
  | grown => rfl

/-- Every finished span is substantial, only the oldest one may open with a closer, and a growing span
that holds a place neither joins the span before it nor is substantial. -/
structure Settled (source : Text) (threshold : Nat) (state : Coalescing) : Prop where
  substantial : ∀ s ∈ state.finished, isSubstantial threshold (s.text source) = true
  opens : ∀ s ∈ state.finished.dropLast, opensWithCloser (s.text source) = false
  growing : state.growing.isEmpty = true ∨
    ¬ Joins source state state.growing ∧ isSubstantial threshold (state.growing.text source) = false

theorem settled_initial (source : Text) (threshold : Nat) : Settled source threshold initial :=
  ⟨by simp [initial], by simp [initial], .inl (by simp [initial, Span.isEmpty])⟩

/-- A span that closers join covers what it covered before and the closers behind it. -/
theorem Sound.text_joined (hstate : Sound source state) {previous : Span} {earlier : List Span}
    (hfinished : state.finished = previous :: earlier) (hprevious : previous.text source ≠ [])
    (hspan : (state.growing.reach span).text source ≠ []) :
    (previous.reach span).text source =
      previous.text source ++ (state.growing.reach span).text source := by
  have hcontiguous := hstate.contiguous
  rw [hfinished, List.reverse_cons, contiguous_append] at hcontiguous
  obtain ⟨middle, -, -, -, hstop⟩ := hcontiguous
  exact Span.text_reach (t := state.growing.reach span) (Eq.symm hstop) hprevious hspan

theorem Taken.settled (h : Taken source threshold state span next) (hstate : Sound source state)
    (hsettled : Settled source threshold state) : Settled source threshold next := by
  obtain ⟨hsubstantial, hopens, -⟩ := hsettled
  cases h with
  | @joined previous earlier hfinished hcloser =>
      rw [hfinished, List.forall_mem_cons] at hsubstantial
      rw [hfinished] at hopens
      obtain ⟨hprevious, hearlier⟩ := hsubstantial
      have htext := hstate.text_joined hfinished (text_ne_nil_of_isSubstantial hprevious)
        (text_ne_nil_of_opensWithCloser hcloser)
      -- the joined span opens as before and has gained text, so nothing decided is undone
      refine ⟨List.forall_mem_cons.mpr ⟨?_, hearlier⟩, ?_, .inl (by simp [Span.isEmpty])⟩
      · rw [htext]
        exact isSubstantial_append hprevious _
      · cases earlier with
        | nil => simp
        | cons s earlier =>
            rw [List.dropLast_cons_cons, List.forall_mem_cons] at hopens ⊢
            refine ⟨?_, hopens.2⟩
            rw [htext, opensWithCloser_append hprevious]
            exact hopens.1
  | finished hjoins hnew =>
      refine ⟨List.forall_mem_cons.mpr ⟨hnew, hsubstantial⟩, ?_, .inl (by simp [Span.isEmpty])⟩
      cases hfinished : state.finished with
      | nil => simp
      | cons s earlier =>
          rw [List.dropLast_cons_cons, List.forall_mem_cons, ← hfinished]
          refine ⟨?_, hopens⟩
          rw [Bool.eq_false_iff]
          exact fun hcloser => hjoins ⟨hcloser, by simp [hfinished]⟩
  | grown hjoins hnot => exact ⟨hsubstantial, hopens, .inr ⟨hjoins, hnot⟩⟩

theorem settled_foldl (hstate : Sound source state) (hsettled : Settled source threshold state)
    (spans : List Span) : Settled source threshold (spans.foldl (step source threshold) state) := by
  induction spans generalizing state with
  | nil => exact hsettled
  | cons span spans ih =>
      have htaken := taken_step source threshold state span
      exact ih (htaken.sound hstate) (htaken.settled hstate hsettled)

/-- Taken again, the finished spans are finished again: each one begins where the one before it was
finished. -/
theorem foldl_step_finished {stop : Nat} {finished : List Span}
    (hcontiguous : Contiguous 0 stop finished.reverse)
    (hsubstantial : ∀ s ∈ finished, isSubstantial threshold (s.text source) = true)
    (hopens : ∀ s ∈ finished.dropLast, opensWithCloser (s.text source) = false) :
    finished.reverse.foldl (step source threshold) initial = ⟨finished, Span.emptyAt stop⟩ := by
  induction finished generalizing stop with
  | nil =>
      obtain rfl : 0 = stop := hcontiguous
      rfl
  | cons s earlier ih =>
      rw [List.reverse_cons, contiguous_append] at hcontiguous
      obtain ⟨_, hearlier, rfl, -, rfl⟩ := hcontiguous
      rw [List.forall_mem_cons] at hsubstantial
      have hopens' : ∀ t ∈ earlier.dropLast, opensWithCloser (t.text source) = false := by
        intro t ht
        apply hopens t
        cases earlier with
        | nil => cases ht
        | cons => exact List.mem_cons_of_mem _ ht
      have hjoins : ¬ Joins source ⟨earlier, Span.emptyAt s.start⟩ s := by
        rintro ⟨hcloser, hne⟩
        obtain ⟨t, rest, rfl⟩ := List.exists_cons_of_ne_nil hne
        exact absurd (hopens s List.mem_cons_self) (by rw [Bool.not_eq_false]; exact hcloser)
      rw [List.reverse_cons, List.foldl_append, ih hearlier hsubstantial.2 hopens']
      exact step_finished hjoins hsubstantial.1

/-- The spans of a settled state are merged to themselves. -/
theorem Settled.coalesce_spans (hsettled : Settled source threshold state)
    (hstate : Sound source state) : coalesce threshold source state.spans = state.spans := by
  have hfinished := foldl_step_finished hstate.contiguous hsettled.substantial hsettled.opens
  unfold coalesce
  by_cases hempty : state.growing.isEmpty = true
  · rw [spans_of_isEmpty hempty, hfinished]
    simp [spans, Span.isEmpty]
  · obtain ⟨hjoins, hnot⟩ := hsettled.growing.resolve_left hempty
    have hspans := spans_of_not_isEmpty hempty
    rw [hspans, List.foldl_append, hfinished, List.foldl_cons, List.foldl_nil]
    -- what was still growing grows again from the same place
    have hstep : step source threshold ⟨state.finished, Span.emptyAt state.growing.start⟩
        state.growing = state := step_grown hjoins hnot
    rw [hstep, hspans]

end Coalescing

/-! ## The merged spans -/

theorem coalesce_concat (threshold : Nat) (source : Text) (spans : List Span) (last : Span) :
    coalesce threshold source (spans ++ [last]) =
      (Coalescing.step source threshold
        (spans.foldl (Coalescing.step source threshold) Coalescing.initial) last).spans := by
  unfold coalesce
  rw [List.foldl_append]
  rfl

/-- Merging merged spans changes nothing, whatever the spans, the source and the threshold: spans may
overlap, be inverted, end inside a character or lie outside the source. -/
theorem coalesce_coalesce (threshold : Nat) (source : Text) (spans : List Span) :
    coalesce threshold source (coalesce threshold source spans) =
      coalesce threshold source spans := by
  have hsettled := Coalescing.settled_foldl (Coalescing.sound_initial source)
    (Coalescing.settled_initial source threshold) spans
  exact hsettled.coalesce_spans (Coalescing.sound_foldl (Coalescing.sound_initial source) spans)

/-- Merged spans are contiguous, wherever the spans lie. -/
theorem exists_contiguous_coalesce (threshold : Nat) (source : Text) (spans : List Span) :
    ∃ stop, Contiguous 0 stop (coalesce threshold source spans) :=
  Coalescing.exists_contiguous_spans
    (Coalescing.sound_foldl (Coalescing.sound_initial source) spans)

/-- The merged spans run from zero to the end of the last span, if the source ends there or before. -/
theorem contiguous_coalesce (threshold : Nat) {source : Text} (spans : List Span) {last : Span}
    (h : source.size ≤ last.stop) :
    Contiguous 0 last.stop (coalesce threshold source (spans ++ [last])) := by
  have htaken := Coalescing.taken_step source threshold
    (spans.foldl (Coalescing.step source threshold) Coalescing.initial) last
  have hsound := htaken.sound (Coalescing.sound_foldl (Coalescing.sound_initial source) spans)
  have hstop := htaken.growing_stop
  rw [← hstop] at h ⊢
  rw [coalesce_concat]
  exact Coalescing.contiguous_spans hsound (Nat.le_trans hsound.inside h)

/-- Merged spans start at zero or where a span before the last one ends. -/
theorem start_of_mem_coalesce {threshold : Nat} {source : Text} {spans : List Span} {last s : Span}
    (h : s ∈ coalesce threshold source (spans ++ [last])) :
    s.start = 0 ∨ ∃ t ∈ spans, s.start = t.stop := by
  rw [coalesce_concat] at h
  have hinitial : Coalescing.Starts (fun offset => offset = 0 ∨ ∃ t ∈ spans, offset = t.stop)
      Coalescing.initial := ⟨.inl rfl, by simp [Coalescing.initial]⟩
  have hstarts := Coalescing.starts_foldl source threshold hinitial fun t ht => .inr ⟨t, ht, rfl⟩
  exact (Coalescing.taken_step source threshold _ last).start_of_mem_spans hstarts h

end CodeRetrieval
