/-
# CodeRetrieval.Proofs.Span — what a span covers, and spans laid end to end.

A text can be cut behind its first `n` bytes exactly where a prefix has that size, so a span with a
text lies in the source and has that text between its ends.  `Contiguous` says of a list of spans that
they follow each other from one offset to another, none of them empty.
-/
import CodeRetrieval.Proofs.Text
import CodeRetrieval.Span

namespace CodeRetrieval

namespace Text

theorem cutBytesAfter_append (passed a b : Text) :
    cutBytesAfter passed (size a) (a ++ b) = some (passed.reverse ++ a, b) := by
  induction a generalizing passed with
  | nil => cases b <;> simp [cutBytesAfter]
  | cons c a ih =>
      have hc : 0 < c.utf8Size := c.utf8Size_pos
      obtain ⟨n, hn⟩ : ∃ n, c.utf8Size + size a = n + 1 := ⟨c.utf8Size + size a - 1, by omega⟩
      rw [size_cons, List.cons_append, hn, cutBytesAfter, if_pos (by omega), ← hn,
        Nat.add_sub_cancel_left, ih]
      · simp
      · exact fun h => absurd h (Nat.succ_ne_zero n)

theorem eq_append_of_cutBytesAfter {passed text a b : Text} {n : Nat}
    (h : cutBytesAfter passed n text = some (a, b)) :
    ∃ covered, a = passed.reverse ++ covered ∧ text = covered ++ b ∧ size covered = n := by
  fun_induction cutBytesAfter passed n text with
  | case1 passed text =>
      obtain ⟨rfl, rfl⟩ := Prod.mk.inj (Option.some.inj h)
      exact ⟨[], by simp, rfl, rfl⟩
  | case2 => cases h
  | case3 passed n c rest hn hle ih =>
      obtain ⟨covered, ha, rfl, hsize⟩ := ih h
      refine ⟨c :: covered, by simp [ha], rfl, ?_⟩
      rw [size_cons]
      omega
  | case4 => cases h

/-- A cut behind `n` bytes is a prefix of that size and the rest. -/
theorem cutBytes_eq_some {n : Nat} {text a b : Text} :
    cutBytes n text = some (a, b) ↔ text = a ++ b ∧ size a = n := by
  constructor
  · intro h
    obtain ⟨covered, ha, htext, hsize⟩ := eq_append_of_cutBytesAfter h
    rw [List.reverse_nil, List.nil_append] at ha
    rw [ha]
    exact ⟨htext, hsize⟩
  · rintro ⟨rfl, rfl⟩
    exact cutBytesAfter_append [] a b

/-- The offset falls between two characters of the text or at an end of it. -/
def Edge (text : Text) (offset : Nat) : Prop :=
  ∃ before behind, text = before ++ behind ∧ before.size = offset

/-- Between two edges lies a part of the text. -/
theorem Edge.exists_between {text : Text} {a b : Nat} (ha : text.Edge a) (hb : text.Edge b)
    (hle : a ≤ b) :
    ∃ before covered behind, text = before ++ covered ++ behind ∧ before.size = a ∧
      (before ++ covered).size = b := by
  obtain ⟨before, rest, rfl, hbefore⟩ := ha
  obtain ⟨front, behind, hsplit, hfront⟩ := hb
  rcases List.append_eq_append_iff.mp hsplit with ⟨covered, rfl, rfl⟩ | ⟨extra, rfl, rfl⟩
  · exact ⟨before, covered, behind, by rw [List.append_assoc], hbefore, hfront⟩
  · -- the second edge is not behind the first one, so they are the same
    rw [size_append] at hbefore
    obtain rfl : extra = [] := by
      by_contra hne
      have hpos := size_pos hne
      omega
    refine ⟨front, [], rest, by simp, ?_, ?_⟩
    · rw [← hbefore]
      rfl
    · rw [List.append_nil]
      exact hfront

end Text

namespace Span

/-- A span that covers something lies in the source with its text between its ends. -/
theorem source_of_text_ne_nil {s : Span} {source : Text} (h : s.text source ≠ []) :
    ∃ before behind, source = before ++ s.text source ++ behind ∧ before.size = s.start ∧
      (before ++ s.text source).size = s.stop := by
  unfold text at h ⊢
  split at h
  · rename_i hle
    rw [if_pos hle]
    split at h
    · exact absurd rfl h
    · rename_i before rest hbefore
      split at h
      · exact absurd rfl h
      · rename_i covered behind hcovered
        obtain ⟨rfl, hstart⟩ := Text.cutBytes_eq_some.mp hbefore
        obtain ⟨rfl, hlength⟩ := Text.cutBytes_eq_some.mp hcovered
        refine ⟨before, behind, ?_, hstart, ?_⟩
        · exact (List.append_assoc before covered behind).symm
        · rw [Text.size_append]
          omega
  · exact absurd rfl h

theorem lt_of_text_ne_nil {s : Span} {source : Text} (h : s.text source ≠ []) :
    s.start < s.stop := by
  obtain ⟨before, behind, hsource, hstart, hstop⟩ := source_of_text_ne_nil h
  have hpos := Text.size_pos h
  rw [Text.size_append] at hstop
  omega

theorem stop_le_of_text_ne_nil {s : Span} {source : Text} (h : s.text source ≠ []) :
    s.stop ≤ source.size := by
  obtain ⟨before, behind, hsource, hstart, hstop⟩ := source_of_text_ne_nil h
  rw [hsource, Text.size_append, hstop]
  exact Nat.le_add_right _ _

/-- A prefix of the source and what follows it are told by the size of the prefix. -/
theorem text_of_source {s : Span} {before covered behind : Text} (hstart : before.size = s.start)
    (hstop : (before ++ covered).size = s.stop) :
    s.text (before ++ covered ++ behind) = covered := by
  have hbefore : Text.cutBytes s.start (before ++ covered ++ behind) =
      some (before, covered ++ behind) :=
    Text.cutBytes_eq_some.mpr ⟨List.append_assoc before covered behind, hstart⟩
  rw [Text.size_append] at hstop
  have hcovered : Text.cutBytes (s.stop - s.start) (covered ++ behind) = some (covered, behind) :=
    Text.cutBytes_eq_some.mpr ⟨rfl, by omega⟩
  unfold text
  rw [if_pos (by omega), hbefore]
  simp only [hcovered]

theorem edges_of_text_ne_nil {s : Span} {source : Text} (h : s.text source ≠ []) :
    source.Edge s.start ∧ source.Edge s.stop := by
  obtain ⟨before, behind, hsource, hstart, hstop⟩ := source_of_text_ne_nil h
  refine ⟨⟨before, s.text source ++ behind, ?_, hstart⟩, ⟨before ++ s.text source, behind, hsource, hstop⟩⟩
  rw [← List.append_assoc]
  exact hsource

/-- A span is cut in two at any edge in it. -/
theorem text_split {source : Text} {a b c : Nat} (ha : source.Edge a) (hb : source.Edge b)
    (hc : source.Edge c) (hab : a ≤ b) (hbc : b ≤ c) :
    text ⟨a, c⟩ source = text ⟨a, b⟩ source ++ text ⟨b, c⟩ source := by
  obtain ⟨before, first, rest, hsource, hbefore, hfirst⟩ := ha.exists_between hb hab
  obtain ⟨front, second, behind, hsource', hfront, hsecond⟩ := hb.exists_between hc hbc
  -- both cut the source at the edge in the middle
  have hcut := Text.cutBytes_eq_some.mpr ⟨hsource, hfirst⟩
  have hcut' := Text.cutBytes_eq_some.mpr
    ⟨hsource'.trans (List.append_assoc front second behind), hfront⟩
  rw [hcut, Option.some.injEq, Prod.mk.injEq] at hcut'
  obtain ⟨rfl, rfl⟩ := hcut'
  have hwhole : text ⟨a, c⟩ (before ++ (first ++ second) ++ behind) = first ++ second :=
    text_of_source hbefore (by rw [← List.append_assoc]; exact hsecond)
  have hfirstPart : text ⟨a, b⟩ (before ++ first ++ (second ++ behind)) = first :=
    text_of_source hbefore hfirst
  have hsecondPart : text ⟨b, c⟩ (before ++ first ++ second ++ behind) = second :=
    text_of_source hfirst hsecond
  rw [← hsource] at hfirstPart
  rw [← hsource'] at hsecondPart
  rw [← List.append_assoc before, ← hsource'] at hwhole
  rw [hwhole, hfirstPart, hsecondPart]

/-- Two spans that meet cover their texts one behind the other, if both cover something. -/
theorem text_reach {s t : Span} {source : Text} (hmeet : t.start = s.stop) (hs : s.text source ≠ [])
    (ht : t.text source ≠ []) : (s.reach t).text source = s.text source ++ t.text source := by
  obtain ⟨hstart, hmiddle⟩ := edges_of_text_ne_nil hs
  obtain ⟨-, hstop⟩ := edges_of_text_ne_nil ht
  have hlt := lt_of_text_ne_nil hs
  have hlt' := lt_of_text_ne_nil ht
  have hbehind : (⟨s.stop, t.stop⟩ : Span) = t := by rw [← hmeet]
  calc (s.reach t).text source
      = text ⟨s.start, s.stop⟩ source ++ text ⟨s.stop, t.stop⟩ source :=
        text_split hstart hmiddle hstop (Nat.le_of_lt hlt) (by omega)
    _ = s.text source ++ t.text source := by rw [hbehind]

theorem isEmpty_iff {s : Span} : s.isEmpty = true ↔ s.stop ≤ s.start := by
  unfold isEmpty length
  rw [beq_iff_eq]
  omega

end Span

/-! ## Spans laid end to end -/

/-- The spans follow each other from `start` to `stop`, none of them empty. -/
def Contiguous (start stop : Nat) : List Span → Prop
  | [] => start = stop
  | s :: rest => s.start = start ∧ s.start < s.stop ∧ Contiguous s.stop stop rest

theorem contiguous_append {start stop : Nat} {xs ys : List Span} :
    Contiguous start stop (xs ++ ys) ↔
      ∃ middle, Contiguous start middle xs ∧ Contiguous middle stop ys := by
  induction xs generalizing start with
  | nil =>
      constructor
      · exact fun h => ⟨start, rfl, h⟩
      · rintro ⟨middle, rfl, h⟩
        exact h
  | cons s xs ih =>
      simp only [List.cons_append, Contiguous, ih]
      constructor
      · rintro ⟨hstart, hlt, middle, hxs, hys⟩
        exact ⟨middle, ⟨hstart, hlt, hxs⟩, hys⟩
      · rintro ⟨middle, ⟨hstart, hlt, hxs⟩, hys⟩
        exact ⟨hstart, hlt, middle, hxs, hys⟩

theorem Contiguous.concat {start stop : Nat} {xs : List Span} {s : Span}
    (h : Contiguous start s.start xs) (hlt : s.start < s.stop) (hstop : s.stop = stop) :
    Contiguous start stop (xs ++ [s]) :=
  contiguous_append.mpr ⟨s.start, h, rfl, hlt, hstop⟩

theorem Contiguous.le {start stop : Nat} {xs : List Span} (h : Contiguous start stop xs) :
    start ≤ stop := by
  induction xs generalizing start with
  | nil => exact Nat.le_of_eq h
  | cons s xs ih =>
      obtain ⟨rfl, hlt, hrest⟩ := h
      exact Nat.le_of_lt (Nat.lt_of_lt_of_le hlt (ih hrest))

/-- Contiguous spans start at or behind `start` and stand in order. -/
theorem Contiguous.pairwise {start stop : Nat} {spans : List Span}
    (h : Contiguous start stop spans) :
    (∀ s ∈ spans, start ≤ s.start) ∧ spans.Pairwise fun a b => a.stop ≤ b.start := by
  induction spans generalizing start with
  | nil => exact ⟨by simp, .nil⟩
  | cons s spans ih =>
      obtain ⟨rfl, hlt, hrest⟩ := h
      obtain ⟨hfrom, hpairwise⟩ := ih hrest
      refine ⟨?_, List.pairwise_cons.mpr ⟨hfrom, hpairwise⟩⟩
      intro t ht
      rcases List.mem_cons.mp ht with rfl | ht
      · exact Nat.le_refl _
      · exact Nat.le_trans (Nat.le_of_lt hlt) (hfrom t ht)

end CodeRetrieval
