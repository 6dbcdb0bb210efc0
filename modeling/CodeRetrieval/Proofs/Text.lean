/-
# CodeRetrieval.Proofs.Text — laws of sizes, pieces and lines.

Sizes add up over the parts of a text.  The pieces of a text are one more than the separators in it,
none of them holds a separator, and pieces that hold none are found again when they are put together.
A text with a line feed is its first line, the line feed and a rest, and its lines are that line and those
of the rest; along this, line by line, goes `lines_induction`.  The lines of a text are one more than the
line feeds before its last character.  Joining joined groups of lines is joining all of them, as long as
no group is empty.
-/
import CodeRetrieval.Text.Lines
import Mathlib.Data.List.Basic

namespace CodeRetrieval.Text

/-! ## Sizes -/

theorem foldl_size (text : Text) (n : Nat) :
    text.foldl (fun n c => n + c.utf8Size) n = n + size text := by
  induction text generalizing n with
  | nil => rfl
  | cons c text ih =>
      rw [size, List.foldl_cons, List.foldl_cons, ih, ih (0 + c.utf8Size)]
      omega

@[simp]
theorem size_nil : size [] = 0 := rfl

@[simp]
theorem size_cons (c : Char) (text : Text) : size (c :: text) = c.utf8Size + size text := by
  rw [size, List.foldl_cons, foldl_size, Nat.zero_add]

@[simp]
theorem size_append (a b : Text) : size (a ++ b) = size a + size b := by
  induction a with
  | nil => simp
  | cons c a ih =>
      rw [List.cons_append, size_cons, size_cons, ih, Nat.add_assoc]

theorem size_pos {text : Text} (h : text ≠ []) : 0 < size text := by
  obtain ⟨c, rest, rfl⟩ := List.exists_cons_of_ne_nil h
  have hc : 0 < c.utf8Size := c.utf8Size_pos
  rw [size_cons]
  omega

theorem utf8Size_lineFeed : ('\n' : Char).utf8Size = 1 := by decide

/-- Every offset below the end falls in one character. -/
theorem exists_char_at {text : Text} {offset : Nat} (h : offset < size text) :
    ∃ before c behind, text = before ++ c :: behind ∧ size before ≤ offset ∧
      offset < size before + c.utf8Size := by
  induction text generalizing offset with
  | nil => simp at h
  | cons c text ih =>
      by_cases hc : offset < c.utf8Size
      · exact ⟨[], c, text, rfl, by simp, by simpa using hc⟩
      · rw [size_cons] at h
        obtain ⟨before, d, behind, rfl, hlow, hhigh⟩ := @ih (offset - c.utf8Size) (by omega)
        refine ⟨c :: before, d, behind, rfl, ?_, ?_⟩ <;> rw [size_cons] <;> omega

/-! ## Pieces -/

theorem split_cons_of_ne {sep c : Char} (h : c ≠ sep) (text : Text) :
    ∃ piece pieces, split sep text = piece :: pieces ∧
      split sep (c :: text) = (c :: piece) :: pieces := by
  refine ⟨_, _, rfl, ?_⟩
  simp [split, h]

@[simp]
theorem length_split (sep : Char) (text : Text) :
    (split sep text).length = text.count sep + 1 := by
  induction text with
  | nil => rfl
  | cons c text ih =>
      by_cases h : c = sep
      · subst h
        rw [split_cons_self, List.length_cons, ih, List.count_cons_self]
      · obtain ⟨piece, pieces, htext, hcons⟩ := split_cons_of_ne h text
        rw [htext] at ih
        rw [hcons, List.count_cons_of_ne h, ← ih]
        rfl

theorem split_concat_self (sep : Char) (text : Text) :
    split sep (text ++ [sep]) = split sep text ++ [[]] := by
  induction text with
  | nil => simp
  | cons c text ih =>
      by_cases h : c = sep
      · subst h
        rw [List.cons_append, split_cons_self, ih, split_cons_self, List.cons_append]
      · obtain ⟨piece, pieces, htext, hcons⟩ := split_cons_of_ne h text
        obtain ⟨piece', pieces', htext', hcons'⟩ := split_cons_of_ne h (text ++ [sep])
        rw [ih, htext, List.cons_append, List.cons.injEq] at htext'
        rw [List.cons_append, hcons', hcons, ← htext'.1, ← htext'.2, List.cons_append]

theorem split_concat_of_ne {sep c : Char} (h : c ≠ sep) (text : Text) :
    ∃ pieces last, split sep text = pieces ++ [last] ∧
      split sep (text ++ [c]) = pieces ++ [last ++ [c]] := by
  induction text with
  | nil =>
      refine ⟨[], [], rfl, ?_⟩
      simp [split, h]
  | cons d text ih =>
      obtain ⟨pieces, last, htext, hconcat⟩ := ih
      by_cases hd : d = sep
      · subst hd
        refine ⟨[] :: pieces, last, ?_, ?_⟩
        · rw [split_cons_self, htext, List.cons_append]
        · rw [List.cons_append, split_cons_self, hconcat, List.cons_append]
      · obtain ⟨piece, rest, hpiece, hcons⟩ := split_cons_of_ne hd text
        obtain ⟨piece', rest', hpiece', hcons'⟩ := split_cons_of_ne hd (text ++ [c])
        rw [htext] at hpiece
        rw [hconcat] at hpiece'
        rw [List.cons_append, hcons, hcons']
        cases pieces with
        | nil =>
            obtain ⟨rfl, rfl⟩ := List.cons.inj hpiece
            obtain ⟨rfl, rfl⟩ := List.cons.inj hpiece'
            exact ⟨[], d :: last, rfl, rfl⟩
        | cons p pieces =>
            obtain ⟨rfl, rfl⟩ := List.cons.inj hpiece
            obtain ⟨rfl, rfl⟩ := List.cons.inj hpiece'
            exact ⟨(d :: p) :: pieces, last, rfl, rfl⟩

/-- The pieces of a text are those the standard library splits it into. -/
theorem split_eq_splitOn (sep : Char) (text : Text) : split sep text = text.splitOn sep := by
  induction text with
  | nil => rw [split_nil, List.splitOn_nil]
  | cons c text ih =>
      rw [List.splitOn_cons_eq_if_modifyHead, ← ih]
      by_cases h : c = sep
      · subst h
        rw [split_cons_self, if_pos (beq_self_eq_true c)]
      · obtain ⟨piece, pieces, htext, hcons⟩ := split_cons_of_ne h text
        rw [htext, hcons, if_neg (by simpa using h)]
        rfl

/-- Pieces without the separator are found again when they are put together. -/
theorem split_join {sep : Char} {pieces : List Text} (hne : pieces ≠ [])
    (hsep : ∀ piece ∈ pieces, sep ∉ piece) : split sep (join [sep] pieces) = pieces := by
  unfold join
  rw [split_eq_splitOn]
  exact List.splitOn_intercalate sep hsep hne

/-- So are the pieces of several texts that were put together one by one. -/
theorem map_split_join {sep : Char} {groups : List (List Text)}
    (h : ∀ pieces ∈ groups, pieces ≠ [] ∧ ∀ piece ∈ pieces, sep ∉ piece) :
    (groups.map (join [sep])).map (split sep) = groups := by
  rw [List.map_map]
  refine (List.map_congr_left ?_).trans (List.map_id groups)
  intro pieces hpieces
  obtain ⟨hne, hsep⟩ := h pieces hpieces
  exact split_join hne hsep

/-- The pieces of a text put together are the text. -/
theorem join_split (sep : Char) (text : Text) : join [sep] (split sep text) = text := by
  unfold join
  rw [split_eq_splitOn]
  exact List.intercalate_splitOn sep

theorem not_mem_of_mem_split {sep : Char} {text piece : Text} (h : piece ∈ split sep text) :
    sep ∉ piece := by
  induction text generalizing piece with
  | nil =>
      obtain rfl : piece = [] := by simpa using h
      exact List.not_mem_nil
  | cons c text ih =>
      by_cases hc : c = sep
      · subst hc
        rw [split_cons_self, List.mem_cons] at h
        rcases h with rfl | h
        · exact List.not_mem_nil
        · exact ih h
      · obtain ⟨first, rest, htext, hcons⟩ := split_cons_of_ne hc text
        rw [htext] at ih
        rw [hcons, List.mem_cons] at h
        rcases h with rfl | h
        · rw [List.mem_cons, not_or]
          exact ⟨Ne.symm hc, ih List.mem_cons_self⟩
        · exact ih (List.mem_cons_of_mem _ h)

/-! ## Lines -/

theorem lines_of_not_mem {text : Text} (hne : text ≠ []) (h : '\n' ∉ text) : lines text = [text] := by
  have hsplit : split '\n' text = [text] := by
    rw [split_eq_splitOn, List.splitOn_eq_singleton h]
  unfold lines
  simp [hsplit, hne]

/-- The first line feed ends the first line. -/
theorem lines_append_lineFeed {line : Text} (h : '\n' ∉ line) (rest : Text) :
    lines (line ++ '\n' :: rest) = dropReturn line :: lines rest := by
  have hsplit : split '\n' (line ++ '\n' :: rest) = line :: split '\n' rest := by
    rw [split_eq_splitOn, split_eq_splitOn, List.splitOn_append_cons_self_of_not_mem h]
  have hne := split_ne_nil '\n' rest
  unfold lines
  simp only [hsplit, List.dropLast_cons_of_ne_nil hne, List.getLast?_cons_of_ne_nil hne, List.map_cons,
    List.cons_append]

/-- What holds of the empty text and of a line without an end, and of a text if it holds of all that
follows its first line, holds of every text. -/
theorem lines_induction {motive : Text → Prop} (nil : motive [])
    (last : ∀ line, line ≠ [] → '\n' ∉ line → motive line)
    (feed : ∀ line rest, '\n' ∉ line → motive rest → motive (line ++ '\n' :: rest)) (text : Text) :
    motive text := by
  by_cases hfeed : '\n' ∈ text
  · obtain ⟨line, rest, htext, hline⟩ := List.eq_append_cons_of_mem hfeed
    have hshorter : rest.length < text.length := by
      simp only [htext, List.length_append, List.length_cons]
      omega
    rw [htext]
    exact feed line rest hline (lines_induction nil last feed rest)
  · by_cases hne : text = []
    · rwa [hne]
    · exact last text hne hfeed
termination_by text.length

/-- No line holds a line feed. -/
theorem not_mem_of_mem_lines {text line : Text} (h : line ∈ text.lines) : '\n' ∉ line := by
  unfold lines at h
  rcases List.mem_append.mp h with hfront | hlast
  · obtain ⟨piece, hpiece, rfl⟩ := List.mem_map.mp hfront
    have hfeed := not_mem_of_mem_split (List.dropLast_subset _ hpiece)
    unfold dropReturn
    split
    · exact fun hmem => hfeed (List.dropLast_subset _ hmem)
    · exact hfeed
  · have hmem := (List.mem_filter.mp hlast).1
    exact not_mem_of_mem_split (List.mem_of_getLast? (Option.mem_toList.mp hmem))

/-- Every line feed before the last character begins one more line. -/
theorem lineCount_concat (text : Text) (c : Char) :
    lineCount (text ++ [c]) = text.count '\n' + 1 := by
  unfold lineCount lines
  by_cases h : c = '\n'
  · subst h
    rw [split_concat_self]
    simp
  · obtain ⟨pieces, last, htext, hconcat⟩ := split_concat_of_ne h text
    have hlength := length_split '\n' text
    rw [htext] at hlength
    rw [hconcat]
    simpa using hlength

theorem lineCount_pos {text : Text} (h : text ≠ []) : 0 < lineCount text := by
  rw [← List.dropLast_append_getLast h, lineCount_concat]
  omega

@[simp]
theorem joinLines_nil : joinLines [] = [] := rfl

@[simp]
theorem joinLines_singleton (line : Text) : joinLines [line] = line := by
  unfold joinLines join
  exact List.intercalate_singleton

theorem joinLines_append {a b : List Text} (ha : a ≠ []) (hb : b ≠ []) :
    joinLines (a ++ b) = joinLines a ++ '\n' :: joinLines b := by
  unfold joinLines join
  induction a with
  | nil => exact absurd rfl ha
  | cons line a ih =>
      cases a with
      | nil => simp [List.intercalate_cons_of_ne_nil hb]
      | cons next a =>
          have hnext := ih (List.cons_ne_nil next a)
          rw [List.cons_append] at hnext
          rw [List.cons_append, List.cons_append, List.intercalate_cons_cons, hnext,
            List.intercalate_cons_cons]
          simp only [List.append_assoc]

/-- Groups of lines joined one by one and then together are the lines joined. -/
theorem joinLines_map_joinLines (groups : List (List Text)) (h : ∀ g ∈ groups, g ≠ []) :
    joinLines (groups.map joinLines) = joinLines groups.flatten := by
  induction groups with
  | nil => rfl
  | cons g groups ih =>
      have hg : g ≠ [] := h g (by simp)
      have hrest : ∀ g' ∈ groups, g' ≠ [] := fun g' hg' => h g' (by simp [hg'])
      cases groups with
      | nil => simp
      | cons g' groups =>
          have hflat : (g' :: groups).flatten ≠ [] := by
            simp [hrest g' (by simp)]
          rw [List.flatten_cons, joinLines_append hg hflat, ← ih hrest]
          rw [List.map_cons, ← List.singleton_append, joinLines_append (by simp) (by simp),
            joinLines_singleton]

end CodeRetrieval.Text
