/-
# CodeRetrieval.Proofs.LineTable — what the line table answers.

The feeds of the table are the offsets of the line feeds in ascending order, so bisection counts the
feeds below an offset.  That count is the number of line feeds before the character the offset falls
in: below the end it is smaller than the line count, at or past the end the table answers the line
count itself, and the answers never decrease.
-/
import CodeRetrieval.Proofs.Text
import CodeRetrieval.Text.Lines
import Mathlib.Order.Monotone.Basic

namespace CodeRetrieval

namespace LineTable

/-! ## The offsets of the line feeds -/

/-- The offsets of the line feeds of a text that starts at `offset`. -/
def feedOffsets (offset : Nat) : Text → List Nat
  | [] => []
  | c :: rest =>
    (if c = '\n' then [offset] else []) ++ feedOffsets (offset + c.utf8Size) rest

theorem toList_feedsFrom (offset : Nat) (found : Array Nat) (text : Text) :
    (feedsFrom offset found text).toList = found.toList ++ feedOffsets offset text := by
  induction text generalizing offset found with
  | nil => simp [feedsFrom, feedOffsets]
  | cons c rest ih =>
      rw [feedsFrom, ih, feedOffsets]
      by_cases h : c = '\n' <;> simp [h]

theorem feedOffsets_append (offset : Nat) (a b : Text) :
    feedOffsets offset (a ++ b) = feedOffsets offset a ++ feedOffsets (offset + a.size) b := by
  induction a generalizing offset with
  | nil => simp [feedOffsets]
  | cons c a ih =>
      rw [List.cons_append, feedOffsets, feedOffsets, ih, Text.size_cons, Nat.add_assoc,
        List.append_assoc]

theorem length_feedOffsets (offset : Nat) (text : Text) :
    (feedOffsets offset text).length = text.count '\n' := by
  induction text generalizing offset with
  | nil => rfl
  | cons c text ih =>
      rw [feedOffsets, List.length_append, ih, List.count_cons]
      by_cases h : c = '\n' <;> simp [h, Nat.add_comm]

theorem feedOffsets_bounds {offset feed : Nat} {text : Text} (h : feed ∈ feedOffsets offset text) :
    offset ≤ feed ∧ feed < offset + text.size := by
  induction text generalizing offset with
  | nil => simp [feedOffsets] at h
  | cons c text ih =>
      have hc : 0 < c.utf8Size := c.utf8Size_pos
      rw [Text.size_cons]
      rw [feedOffsets, List.mem_append] at h
      rcases h with h | h
      · split at h
        · rw [List.mem_singleton] at h
          omega
        · simp at h
      · have hfeed := ih h
        omega

theorem feedOffsets_ascending (offset : Nat) (text : Text) :
    (feedOffsets offset text).Pairwise (· < ·) := by
  induction text generalizing offset with
  | nil => exact .nil
  | cons c text ih =>
      rw [feedOffsets, List.pairwise_append]
      refine ⟨by split <;> simp, ih _, ?_⟩
      intro a ha b hb
      have hb' := (feedOffsets_bounds hb).1
      have hc : 0 < c.utf8Size := c.utf8Size_pos
      split at ha
      · rw [List.mem_singleton] at ha
        omega
      · simp at ha

/-! ## Bisection -/

/-- Every entry before `low` is below the bound, and none from `high` on is. -/
structure Brackets (entries : Array Nat) (bound low high : Nat) : Prop where
  le : low ≤ high
  inside : high ≤ entries.size
  below : ∀ i < low, entries.getD i 0 < bound
  above : ∀ i, high ≤ i → i < entries.size → bound ≤ entries.getD i 0

/-- Bisection narrows a bracket down to one place. -/
theorem brackets_bisect {entries : Array Nat} {bound low high : Nat}
    (hmono : ∀ i j, i ≤ j → j < entries.size → entries.getD i 0 ≤ entries.getD j 0)
    (h : Brackets entries bound low high) :
    Brackets entries bound (bisect entries bound low high) (bisect entries bound low high) := by
  fun_induction bisect entries bound low high with
  | case1 low high hlt middle hbelow ih =>
      -- the middle entry is below the bound, so all entries before it are
      have hmiddle : middle < high := by omega
      apply ih
      refine ⟨hmiddle, h.inside, ?_, h.above⟩
      intro i hi
      have hinside := h.inside
      exact Nat.lt_of_le_of_lt (hmono i middle (by omega) (by omega)) hbelow
  | case2 low high hlt middle habove ih =>
      have hmiddle : middle < high := by omega
      apply ih
      refine ⟨by omega, by have := h.inside; omega, h.below, ?_⟩
      intro i hi hsize
      exact Nat.le_trans (Nat.le_of_not_lt habove) (hmono middle i hi hsize)
  | case3 low high hge =>
      have heq : high = low := by have := h.le; omega
      rw [heq] at h
      exact h

theorem Brackets.eq_countP {entries : Array Nat} {bound place : Nat}
    (h : Brackets entries bound place place) :
    place = entries.toList.countP (· < bound) := by
  have hget : ∀ i (hi : i < entries.toList.length), entries.getD i 0 = entries.toList[i] := by
    intro i hi
    rw [Array.length_toList] at hi
    simp [Array.getD, hi]
  have htake : ∀ a ∈ entries.toList.take place, a < bound := by
    intro a ha
    obtain ⟨i, hi, rfl⟩ := List.mem_take_iff_getElem.mp ha
    rw [← hget i (by omega)]
    exact h.below i (by omega)
  have hdrop : ∀ a ∈ entries.toList.drop place, ¬ a < bound := by
    intro a ha
    obtain ⟨i, hi, rfl⟩ := List.mem_drop_iff_getElem.mp ha
    have habove := h.above (i + place) (by omega) (by simpa using hi)
    rw [hget (i + place) hi] at habove
    simpa [Nat.add_comm] using habove
  have hlength : (entries.toList.take place).length = place := by
    rw [List.length_take, Array.length_toList]
    exact Nat.min_eq_left h.inside
  rw [← List.take_append_drop place entries.toList, List.countP_append,
    List.countP_eq_length.mpr (by simpa using htake),
    List.countP_eq_zero.mpr (by simpa using hdrop), hlength, Nat.add_zero]

/-! ## Lookups -/

theorem toList_feeds (text : Text) : (ofText text).feeds.toList = feedOffsets 0 text := by
  show (feedsFrom 0 #[] text).toList = _
  rw [toList_feedsFrom]
  rfl

theorem lineOf_of_size_le {text : Text} {offset : Nat} (h : text.size ≤ offset) :
    (ofText text).lineOf offset = text.lineCount := if_pos h

/-- Below the end the table counts the line feeds below the offset. -/
theorem lineOf_eq_countP {text : Text} {offset : Nat} (h : offset < text.size) :
    (ofText text).lineOf offset = (feedOffsets 0 text).countP (· < offset) := by
  have hlookup : (ofText text).lineOf offset =
      bisect (ofText text).feeds offset 0 (ofText text).feeds.size := if_neg (by
    show ¬ text.size ≤ offset
    omega)
  have hmono : ∀ i j, i ≤ j → j < (ofText text).feeds.size →
      (ofText text).feeds.getD i 0 ≤ (ofText text).feeds.getD j 0 := by
    intro i j hij hj
    have hascending := feedOffsets_ascending 0 text
    rw [← toList_feeds, List.pairwise_iff_getElem] at hascending
    rcases Nat.lt_or_eq_of_le hij with hlt | rfl
    · have hentry := hascending i j (by simp; omega) (by simpa using hj) hlt
      simp only [Array.getD, hj, Nat.lt_trans hlt hj, dite_true]
      exact Nat.le_of_lt (by simpa using hentry)
    · exact Nat.le_refl _
  rw [hlookup, ← toList_feeds]
  refine (brackets_bisect hmono ⟨Nat.zero_le _, Nat.le_refl _, ?_, ?_⟩).eq_countP
  · intro i hi
    omega
  · intro i hi hsize
    omega

/-- The line of a character is the number of line feeds before it. -/
theorem lineOf_char {before behind : Text} {c : Char} {offset : Nat} (hlow : before.size ≤ offset)
    (hhigh : offset < before.size + c.utf8Size) :
    (ofText (before ++ c :: behind)).lineOf offset = before.count '\n' := by
  have hbefore : (feedOffsets 0 before).countP (· < offset) = before.count '\n' := by
    rw [List.countP_eq_length.mpr, length_feedOffsets]
    intro feed hfeed
    have := feedOffsets_bounds hfeed
    simp only [decide_eq_true_eq]
    omega
  -- a line feed that is the character itself is not below the offset, which is its own
  have hchar : ((if c = '\n' then [before.size] else []).countP (· < offset)) = 0 := by
    split
    · rename_i hc
      rw [hc, Text.utf8Size_lineFeed] at hhigh
      simp
      omega
    · rfl
  have hbehind : (feedOffsets (before.size + c.utf8Size) behind).countP (· < offset) = 0 := by
    rw [List.countP_eq_zero]
    intro feed hfeed
    have := feedOffsets_bounds hfeed
    simp only [decide_eq_true_eq]
    omega
  rw [lineOf_eq_countP (by rw [Text.size_append, Text.size_cons]; omega), feedOffsets_append,
    List.countP_append, hbefore, feedOffsets, Nat.zero_add, List.countP_append, hchar, hbehind,
    Nat.add_zero]

theorem lineOf_lt_lineCount {text : Text} {offset : Nat} (h : offset < text.size) :
    (ofText text).lineOf offset < text.lineCount := by
  obtain ⟨before, c, behind, rfl, hlow, hhigh⟩ := Text.exists_char_at h
  rw [lineOf_char hlow hhigh]
  obtain ⟨rest, last, hconcat⟩ := (List.eq_nil_or_concat (c :: behind)).resolve_left (by simp)
  rw [List.concat_eq_append] at hconcat
  rw [hconcat, ← List.append_assoc, Text.lineCount_concat, List.count_append]
  omega

theorem lineOf_le_lineCount (text : Text) (offset : Nat) :
    (ofText text).lineOf offset ≤ text.lineCount := by
  rcases Nat.lt_or_ge offset (text.size) with h | h
  · exact Nat.le_of_lt (lineOf_lt_lineCount h)
  · exact Nat.le_of_eq (lineOf_of_size_le h)

theorem lineOf_mono (text : Text) : Monotone (ofText text).lineOf := by
  intro a b hab
  rcases Nat.lt_or_ge b (text.size) with hb | hb
  · rw [lineOf_eq_countP hb, lineOf_eq_countP (Nat.lt_of_le_of_lt hab hb)]
    apply List.countP_mono_left
    intro feed _ hfeed
    simp only [decide_eq_true_eq] at hfeed ⊢
    omega
  · rw [lineOf_of_size_le hb]
    exact lineOf_le_lineCount text a

end LineTable

end CodeRetrieval
