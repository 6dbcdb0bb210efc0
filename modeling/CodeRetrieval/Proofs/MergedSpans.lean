/-
# CodeRetrieval.Proofs.MergedSpans — what merging promises of spans that follow each other.

The spans that are merged follow each other up to some offset.  Then so do the merged ones, from zero to
the same offset, each of them holding a byte, and they meet only where two of the spans met.  A state
that is settled finishes a span only once it is substantial and lets no span but the oldest open with a
closer; what is still growing at the end is the one span that need not be substantial, and it does not
open with a closer either, or it would have joined the span before it.
-/
import CodeRetrieval.Proofs.Coalescing
import Mathlib.Data.List.Chain

namespace CodeRetrieval

/-! ## Spans that follow each other -/

/-- Each span starts where the one before it ends, and none ends before an earlier one does. -/
structure Consecutive (spans : List Span) : Prop where
  adjacent : spans.IsChain fun a b => a.stop = b.start
  ascending : spans.Pairwise fun a b => a.stop ≤ b.stop

/-- Where the last span ends; zero if there is none. -/
def lastStop (spans : List Span) : Nat := (spans.getLast?.map Span.stop).getD 0

@[simp]
theorem lastStop_concat (spans : List Span) (last : Span) :
    lastStop (spans ++ [last]) = last.stop := by
  simp [lastStop]

/-- One of the spans ends at the offset and the next one starts there. -/
def MeetAt (spans : List Span) (offset : Nat) : Prop :=
  ∃ a b, [a, b] <:+: spans ∧ a.stop = offset ∧ b.start = offset

/-- A span before the last one ends where the next one starts. -/
theorem Consecutive.meetAt {front : List Span} {last s : Span} (h : Consecutive (front ++ [last]))
    (hs : s ∈ front) : MeetAt (front ++ [last]) s.stop := by
  obtain ⟨earlier, later, rfl⟩ := List.append_of_mem hs
  obtain ⟨next, rest, hnext⟩ := List.exists_cons_of_ne_nil (show later ++ [last] ≠ [] by simp)
  have hsplit : earlier ++ s :: later ++ [last] = earlier ++ s :: next :: rest := by
    rw [← hnext, List.append_assoc, List.cons_append]
  have hadjacent := h.adjacent
  rw [hsplit] at hadjacent ⊢
  have hstop : s.stop = next.start := (List.isChain_append_cons_cons.mp hadjacent).2.1
  exact ⟨s, next, ⟨earlier, rest, by simp⟩, rfl, hstop.symm⟩

/-! ## Settled spans -/

namespace Coalescing

variable {source : Text} {threshold : Nat} {state : Coalescing} {s : Span}

/-- Only the last span may be short of a chunk. -/
theorem Settled.substantial_of_mem_dropLast (h : Settled source threshold state)
    (hs : s ∈ state.spans.dropLast) : isSubstantial threshold (s.text source) = true := by
  have hfinished : s ∈ state.finished.reverse := by
    by_cases hempty : state.growing.isEmpty = true
    · rw [spans_of_isEmpty hempty] at hs
      exact (List.dropLast_sublist _).subset hs
    · rwa [spans_of_not_isEmpty hempty, List.dropLast_concat] at hs
  exact h.substantial s (List.mem_reverse.mp hfinished)

/-- Only the first span may open with a closer. -/
theorem Settled.opens_of_mem_tail (h : Settled source threshold state) (hs : s ∈ state.spans.tail) :
    opensWithCloser (s.text source) = false := by
  have hfinished : ∀ t ∈ state.finished.reverse.tail, opensWithCloser (t.text source) = false := by
    intro t ht
    rw [List.tail_reverse, List.mem_reverse] at ht
    exact h.opens t ht
  by_cases hempty : state.growing.isEmpty = true
  · rw [spans_of_isEmpty hempty] at hs
    exact hfinished s hs
  · have hnot : ¬ Joins source state state.growing := (h.growing.resolve_left hempty).1
    rw [spans_of_not_isEmpty hempty] at hs
    cases hreverse : state.finished.reverse with
    | nil =>
        -- nothing is finished, so what grows is the first span
        rw [hreverse] at hs
        cases hs
    | cons first rest =>
        have hne : state.finished ≠ [] := by
          rintro hnil
          rw [hnil] at hreverse
          cases hreverse
        rw [hreverse, List.cons_append, List.tail_cons, List.mem_append, List.mem_singleton] at hs
        rcases hs with hs | rfl
        · exact hfinished s (by rw [hreverse]; exact hs)
        · rw [Bool.eq_false_iff]
          intro hcloser
          exact hnot ⟨hcloser, hne⟩

end Coalescing

theorem isSubstantial_iff {threshold : Nat} {text : Text} :
    isSubstantial threshold text = true ↔ threshold < text.nonBlankCount ∧ '\n' ∈ text := by
  unfold isSubstantial
  rw [Bool.and_eq_true, decide_eq_true_eq, List.contains_iff_mem]

/-- The first character that is not blank decides whether a text opens with a closer. -/
theorem opensWithCloser_eq_false_iff {text : Text} :
    opensWithCloser text = false ↔
      ∀ c, text.find? (fun c => !Unicode.isBlank c) = some c → c ∉ closers := by
  have hfind : text.find? (fun c => !Unicode.isBlank c) = text.trimStart.head? := by
    unfold Text.trimStart
    rw [List.find?_eq_head?_dropWhile_not]
    simp only [Bool.not_not]
  rw [hfind]
  unfold opensWithCloser
  cases text.trimStart with
  | nil => simp
  | cons c rest => simp

/-! ## What merging promises -/

/-- The merged spans hold a byte each and follow each other from zero to the end of the spans, so there
is none only if the spans end at zero.  They meet only where two spans meet; all but the last hold more
characters than the threshold that are not blank, and a line feed; and of all but the first the first
character that is not blank is no closer. -/
structure KeepPromise (threshold : Nat) (source : Text) (spans merged : List Span) : Prop where
  contiguous : Contiguous 0 (lastStop spans) merged
  nil_iff : merged = [] ↔ lastStop spans = 0
  meet : ∀ s ∈ merged.tail, MeetAt spans s.start
  substantial : ∀ s ∈ merged.dropLast,
    threshold < (s.text source).nonBlankCount ∧ '\n' ∈ s.text source
  opens : ∀ s ∈ merged.tail, ∀ c,
    (s.text source).find? (fun c => !Unicode.isBlank c) = some c → c ∉ closers

theorem Contiguous.nil_iff {start stop : Nat} {spans : List Span} (h : Contiguous start stop spans) :
    spans = [] ↔ stop = start := by
  cases spans with
  | nil =>
      have hstop : start = stop := h
      simp [hstop]
  | cons s rest =>
      obtain ⟨rfl, hlt, hrest⟩ := h
      have hle := hrest.le
      have hne : stop ≠ s.start := by omega
      simp [hne]

theorem Contiguous.lt_of_mem_tail {start stop : Nat} {spans : List Span} {s : Span}
    (h : Contiguous start stop spans) (hs : s ∈ spans.tail) : start < s.start := by
  cases spans with
  | nil => cases hs
  | cons first rest =>
      obtain ⟨rfl, hlt, hrest⟩ := h
      have hfrom := hrest.pairwise.1 s hs
      omega

/-- The merged spans run from zero to the end of the last span, if no span ends behind it. -/
theorem contiguous_coalesce_of_ascending (threshold : Nat) (source : Text) {front : List Span}
    {last : Span} (h : (front ++ [last]).Pairwise fun a b => a.stop ≤ b.stop) :
    Contiguous 0 last.stop (coalesce threshold source (front ++ [last])) := by
  have htaken := Coalescing.taken_step source threshold
    (front.foldl (Coalescing.step source threshold) Coalescing.initial) last
  have hsound := htaken.sound (Coalescing.sound_foldl (Coalescing.sound_initial source) front)
  have hbefore : ∀ s ∈ front, s.stop ≤ last.stop := by
    intro s hs
    exact (List.pairwise_append.mp h).2.2 s hs last (by simp)
  have hinitial : Coalescing.Starts (fun offset => offset ≤ last.stop) Coalescing.initial :=
    ⟨Nat.zero_le _, by simp [Coalescing.initial]⟩
  have hstarts := htaken.starts (Coalescing.starts_foldl source threshold hinitial hbefore)
    (Nat.le_refl last.stop)
  have hle := hstarts.1
  have hstop := htaken.growing_stop
  rw [← hstop] at hle ⊢
  rw [coalesce_concat]
  exact Coalescing.contiguous_spans hsound hle

/-- Spans that follow each other are merged as promised, whatever the source and the threshold: no end
of a span has to fall between two characters. -/
theorem merged_spans_keep_promise (threshold : Nat) (source : Text) {spans : List Span}
    (h : Consecutive spans) :
    KeepPromise threshold source spans (coalesce threshold source spans) := by
  have hsettled := Coalescing.settled_foldl (Coalescing.sound_initial source)
    (Coalescing.settled_initial source threshold) spans
  have hcontiguous : Contiguous 0 (lastStop spans) (coalesce threshold source spans) := by
    rcases List.eq_nil_or_concat spans with rfl | ⟨front, last, rfl⟩
    · rfl
    · rw [List.concat_eq_append] at h ⊢
      rw [lastStop_concat]
      exact contiguous_coalesce_of_ascending threshold source h.ascending
  refine ⟨hcontiguous, hcontiguous.nil_iff, ?_, ?_, ?_⟩
  · intro s hs
    rcases List.eq_nil_or_concat spans with rfl | ⟨front, last, rfl⟩
    · cases hs
    · rw [List.concat_eq_append] at h hs hcontiguous ⊢
      have hpos : 0 < s.start := hcontiguous.lt_of_mem_tail hs
      rcases start_of_mem_coalesce (List.mem_of_mem_tail hs) with hzero | ⟨t, ht, hstart⟩
      · omega
      · rw [hstart]
        exact h.meetAt ht
  · intro s hs
    exact isSubstantial_iff.mp (hsettled.substantial_of_mem_dropLast hs)
  · intro s hs
    exact opensWithCloser_eq_false_iff.mp (hsettled.opens_of_mem_tail hs)

/-- Four lines; the third one opens with a closer. -/
def Text.closerLine : Text := ['a', 'b', '\n', 'c', 'é', '\n', ')', 'e', '\n', 'f', '\n']

/-- The lines of the text with a closer. -/
def Text.closerLineSpans : List Span := [⟨0, 3⟩, ⟨3, 7⟩, ⟨7, 10⟩, ⟨10, 12⟩]

theorem merged_spans_of_closerLine :
    Consecutive Text.closerLineSpans ∧
      KeepPromise 1 Text.closerLine Text.closerLineSpans [⟨0, 3⟩, ⟨3, 10⟩, ⟨10, 12⟩] := by
  have hconsecutive : Consecutive Text.closerLineSpans := ⟨by decide, by decide⟩
  have hmerged : coalesce 1 Text.closerLine Text.closerLineSpans =
      [⟨0, 3⟩, ⟨3, 10⟩, ⟨10, 12⟩] := by decide
  refine ⟨hconsecutive, ?_⟩
  rw [← hmerged]
  exact merged_spans_keep_promise 1 Text.closerLine hconsecutive

end CodeRetrieval
