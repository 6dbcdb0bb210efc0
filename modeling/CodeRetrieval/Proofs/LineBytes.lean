/-
# CodeRetrieval.Proofs.LineBytes — the line table names the line that a byte belongs to.

A line takes up the bytes of what it says and of what ends it, be that a line feed, a carriage return and
a line feed, or nothing at the end of the text.  That places every byte of a text in one of its lines,
which is shown line by line, with no regard to the table.  The table counts the line feeds in front of a
byte.  In front of a line there are as many as there are lines before it, and up to the byte there is none
in the line itself, as a line holds none and its end holds it last.  So the count is the number of the
line.
-/
import CodeRetrieval.Proofs.LineTable

namespace CodeRetrieval

namespace Text

variable {text before line ending behind : Text} {k offset : Nat}

/-! ## Lines with their ends -/

/-- A text of whole lines: with a line feed at its end, or empty. -/
def Whole (text : Text) : Prop := ∀ c, text.getLast? = some c → c = '\n'

theorem lineCount_of_whole (h : Whole text) : text.lineCount = text.count '\n' := by
  rcases List.eq_nil_or_concat text with rfl | ⟨front, c, rfl⟩
  · rfl
  · rw [List.concat_eq_append] at h ⊢
    obtain rfl : c = '\n' := h c List.getLast?_concat
    rw [lineCount_concat, List.count_append, List.count_singleton_self]

theorem Whole.feed (h : Whole text) (line : Text) : Whole (line ++ '\n' :: text) := by
  intro c hc
  cases text with
  | nil => simpa [eq_comm] using hc
  | cons d rest =>
      rw [List.getLast?_append_cons, List.getLast?_cons_cons] at hc
      exact h c hc

/-- Line number `k` of a text and what ends it, between the lines before it and the lines behind it. -/
structure LineAt (text : Text) (k : Nat) (before line ending behind : Text) : Prop where
  parts : text = before ++ (line ++ ending) ++ behind
  whole : Whole before
  above : before.lines = text.lines.take k
  entry : text.lines[k]? = some line
  ends : ending = ['\n'] ∨ ending = ['\r', '\n'] ∨ ending = [] ∧ behind = []
  below : behind.lines = text.lines.drop (k + 1)

/-- The byte at an offset belongs to line number `k` of a text, or to what ends that line. -/
def LineHolds (text : Text) (k offset : Nat) : Prop :=
  ∃ before line ending behind, LineAt text k before line ending behind ∧
    before.size ≤ offset ∧ offset < before.size + (line ++ ending).size

/-! ## Every byte belongs to a line -/

theorem exists_ending (line : Text) :
    ∃ ending, (ending = ['\n'] ∨ ending = ['\r', '\n']) ∧
      dropReturn line ++ ending = line ++ ['\n'] := by
  unfold dropReturn
  split
  · rename_i hlast
    refine ⟨['\r', '\n'], .inr rfl, ?_⟩
    conv_rhs => rw [← List.dropLast_append_getLast? '\r' hlast]
    simp
  · exact ⟨['\n'], .inl rfl, rfl⟩

theorem lineAt_of_not_mem (hne : text ≠ []) (h : '\n' ∉ text) : LineAt text 0 [] text [] [] := by
  have hlines := lines_of_not_mem hne h
  refine ⟨by simp, by simp [Whole], by simp, ?_, .inr (.inr ⟨rfl, rfl⟩), ?_⟩
  · rw [hlines]
    rfl
  · rw [hlines]
    rfl

theorem exists_lineAt_zero (h : '\n' ∉ line) (rest : Text) :
    ∃ ending, dropReturn line ++ ending = line ++ ['\n'] ∧
      LineAt (line ++ '\n' :: rest) 0 [] (dropReturn line) ending rest := by
  obtain ⟨ending, hends, hending⟩ := exists_ending line
  have hlines := lines_append_lineFeed h rest
  refine ⟨ending, hending, ?_, by simp [Whole], by simp, ?_, ?_, ?_⟩
  · rw [hending]
    simp
  · rw [hlines]
    rfl
  · exact hends.imp_right .inl
  · rw [hlines]
    rfl

/-- A line of what follows a line is the next one of the whole. -/
theorem LineAt.feed {rest first : Text} (h : LineAt rest k before line ending behind)
    (hfirst : '\n' ∉ first) :
    LineAt (first ++ '\n' :: rest) (k + 1) (first ++ '\n' :: before) line ending behind := by
  have hlines := lines_append_lineFeed hfirst rest
  refine ⟨?_, h.whole.feed first, ?_, ?_, h.ends, ?_⟩
  · rw [h.parts]
    simp
  · rw [hlines, lines_append_lineFeed hfirst, List.take_succ_cons, h.above]
  · rw [hlines, List.getElem?_cons_succ, h.entry]
  · rw [hlines, List.drop_succ_cons, h.below]

theorem exists_lineHolds (h : offset < text.size) : ∃ k, LineHolds text k offset := by
  induction text using lines_induction generalizing offset with
  | nil => simp at h
  | last line hne hfeed =>
      exact ⟨0, [], line, [], [], lineAt_of_not_mem hne hfeed, by simp, by simpa using h⟩
  | feed first rest hfirst ih =>
      rw [size_append, size_cons, utf8Size_lineFeed] at h
      have hsize : size (first ++ ['\n']) = first.size + 1 := by simp [utf8Size_lineFeed]
      by_cases hin : offset < first.size + 1
      · obtain ⟨ending, hending, hline⟩ := exists_lineAt_zero hfirst rest
        refine ⟨0, [], _, ending, rest, hline, by simp, ?_⟩
        rw [hending, hsize]
        simpa using hin
      · -- the byte belongs to a line of the rest, where its offset is shorter by the first line
        obtain ⟨k, before, line, ending, behind, hline, hlow, hhigh⟩ :=
          @ih (offset - (first.size + 1)) (by omega)
        refine ⟨k + 1, _, line, ending, behind, hline.feed hfirst, ?_, ?_⟩ <;>
          rw [size_append, size_cons, utf8Size_lineFeed] <;> omega

/-! ## Line feeds up to a byte -/

theorem LineAt.count_before (h : LineAt text k before line ending behind) :
    before.count '\n' = k := by
  obtain ⟨hk, -⟩ := List.getElem?_eq_some_iff.mp h.entry
  rw [← lineCount_of_whole h.whole]
  show before.lines.length = k
  rw [h.above, List.length_take, Nat.min_eq_left (Nat.le_of_lt hk)]

/-- A line with its end holds no line feed but the last character. -/
theorem LineAt.not_mem_dropLast (h : LineAt text k before line ending behind) :
    '\n' ∉ (line ++ ending).dropLast := by
  have hline : '\n' ∉ line := not_mem_of_mem_lines (List.mem_of_getElem? h.entry)
  rcases h.ends with rfl | rfl | ⟨rfl, -⟩
  · rwa [List.dropLast_concat]
  · rw [show line ++ ['\r', '\n'] = line ++ ['\r'] ++ ['\n'] by simp, List.dropLast_concat]
    simpa using hline
  · rw [List.append_nil]
    exact fun hmem => hline (List.dropLast_subset _ hmem)

end Text

namespace LineTable

variable {text : Text} {k offset : Nat}

theorem lineOf_of_lineHolds (h : text.LineHolds k offset) : (ofText text).lineOf offset = k := by
  obtain ⟨before, line, ending, behind, hline, hlow, hhigh⟩ := h
  have hoffset : offset - before.size < (line ++ ending).size := by omega
  obtain ⟨front, c, back, hchar, hlow', hhigh'⟩ := Text.exists_char_at hoffset
  have hfront : '\n' ∉ front := by
    intro hmem
    apply hline.not_mem_dropLast
    rw [hchar, List.dropLast_append_of_ne_nil (List.cons_ne_nil c back)]
    exact List.mem_append_left _ hmem
  have htext : text = (before ++ front) ++ c :: (back ++ behind) := by
    rw [hline.parts, hchar]
    simp
  have hsize : (before ++ front).size = before.size + front.size := Text.size_append before front
  rw [htext, lineOf_char (by omega) (by omega), List.count_append, hline.count_before,
    List.count_eq_zero.mpr hfront, Nat.add_zero]

/-- The table and the lines of a text agree: they are as many, an offset below the end is looked up in the
line that its byte belongs to, and no other, and an offset at or past the end behind all lines; a later
offset is never looked up in an earlier line. -/
structure AgreesWithLines (table : LineTable) (text : Text) : Prop where
  count : table.count = text.lines.length
  below : ∀ offset < text.size, table.lineOf offset < table.count
  holds_iff : ∀ offset < text.size, ∀ k, table.lineOf offset = k ↔ text.LineHolds k offset
  past : ∀ offset, text.size ≤ offset → table.lineOf offset = table.count
  mono : Monotone table.lineOf

/-- Counting line feeds and cutting a text in lines come to the same lines, whatever ends them. -/
theorem ofText_agrees_with_lines (text : Text) : AgreesWithLines (ofText text) text := by
  refine ⟨rfl, fun offset h => lineOf_lt_lineCount h, fun offset h k => ⟨?_, lineOf_of_lineHolds⟩,
    fun offset h => lineOf_of_size_le h, lineOf_mono text⟩
  rintro rfl
  obtain ⟨k, hk⟩ := Text.exists_lineHolds h
  rwa [lineOf_of_lineHolds hk]

/-- A carriage return and the line feed behind it belong to the line that they end. -/
example : (List.range 9).map (ofText ['é', '\r', '\n', '\n', 'a', 'b']).lineOf =
    [0, 0, 0, 0, 1, 2, 2, 3, 3] := by decide +kernel

end LineTable

end CodeRetrieval
