/-
# CodeRetrieval.Proofs.QueryPieces — a query cut into pieces loses no line and invents none.

A piece of a query consists of lines that it repeats and lines that it adds.  `Follows` says what a
piece may repeat, given the pieces before it: nothing if it is the first one or was opened by a header,
and otherwise the current header and the last lines of the piece before it.  `Laid` says it of every
piece of a list.  Reading a line keeps a list of laid pieces laid and adds the line to the last one or
to a new one, so in the end the added lines, in order, are the lines of the query.
-/
import CodeRetrieval.Proofs.Text
import CodeRetrieval.Similarity.QueryPieces
import Mathlib.Data.List.DropRight

namespace CodeRetrieval.QueryPieces

/-! ## Pieces in two parts -/

/-- A piece of a query in two parts: the lines it repeats of what was read before, and the lines it
adds.  The length of the first part is how many lines to drop for the second one. -/
structure Piece where
  repeated : List Text
  added : List Text

/-- The lines of a piece. -/
def Piece.lines (piece : Piece) : List Text := piece.repeated ++ piece.added

/-- The last header among lines that were read. -/
def currentHeader (read : List Text) : Option Text := read.reverse.find? isHeader

theorem currentHeader_concat (read : List Text) (line : Text) :
    currentHeader (read ++ [line]) = if isHeader line then some line else currentHeader read := by
  unfold currentHeader
  rw [List.reverse_append, List.reverse_singleton, List.singleton_append, List.find?_cons]
  cases isHeader line <;> rfl

theorem mem_of_mem_currentHeader {read : List Text} {header : Text}
    (h : header ∈ currentHeader read) : header ∈ read :=
  List.mem_reverse.mp (List.mem_of_find?_eq_some h)

/-- How a piece continues the pieces before it.  Of its added lines only the first one may be a header.
The first piece, and one whose first added line is a header, repeat nothing.  Any other piece was opened
because the one before it had reached the limit: it repeats the current header, if there is one, and the
last lines of that piece.  Wherever in its added lines a header is in force, the piece opens with this
header. -/
structure Piece.Follows (limit overlap : Nat) (earlier : List Piece) (piece : Piece) : Prop where
  single : ∀ line ∈ piece.added.tail, isHeader line = false
  first : earlier = [] → piece.repeated = []
  headed : ∀ line ∈ piece.added.head?, isHeader line = true → piece.repeated = []
  flushed : ∀ previous ∈ earlier.getLast?, (∀ line ∈ piece.added.head?, isHeader line = false) →
    max limit 1 ≤ previous.lines.length ∧
      piece.repeated = (currentHeader (earlier.flatMap Piece.added)).toList ++
        previous.lines.rtake overlap
  opening : ∀ front back, piece.added = front ++ back → (piece.added ≠ [] → front ≠ []) →
    ∀ header ∈ currentHeader (earlier.flatMap Piece.added ++ front), piece.lines.head? = some header

/-- Pieces each of which continues those before it, none of them empty. -/
inductive Laid (limit overlap : Nat) : List Piece → Prop
  | nil : Laid limit overlap []
  | concat {earlier : List Piece} {piece : Piece} :
      Laid limit overlap earlier → piece.Follows limit overlap earlier → piece.lines ≠ [] →
      Laid limit overlap (earlier ++ [piece])

variable {limit overlap : Nat} {earlier : List Piece} {piece : Piece} {line : Text}

/-! ## What a piece may look like -/

/-- Whatever a piece repeats was read before. -/
theorem Piece.Follows.mem_repeated (h : piece.Follows limit overlap earlier)
    (hmem : line ∈ piece.repeated) :
    line ∈ earlier.flatMap Piece.added ∨ ∃ previous ∈ earlier, line ∈ previous.lines := by
  have hne : piece.repeated ≠ [] := List.ne_nil_of_mem hmem
  have hheadless : ∀ first ∈ piece.added.head?, isHeader first = false := by
    intro first hfirst
    rw [Bool.eq_false_iff]
    exact fun hheader => hne (h.headed first hfirst hheader)
  cases hlast : earlier.getLast? with
  | none => exact absurd (h.first (List.getLast?_eq_none_iff.mp hlast)) hne
  | some previous =>
      rw [(h.flushed previous hlast hheadless).2, List.mem_append, Option.mem_toList] at hmem
      rcases hmem with hheader | hmem
      · exact .inl (mem_of_mem_currentHeader hheader)
      · exact .inr ⟨previous, List.mem_of_getLast? hlast, List.mem_of_mem_drop hmem⟩

/-- Laid pieces hold no line that none of them adds. -/
theorem Laid.mem_added {pieces : List Piece} (h : Laid limit overlap pieces) (hpiece : piece ∈ pieces)
    (hline : line ∈ piece.lines) : line ∈ pieces.flatMap Piece.added := by
  induction h generalizing piece with
  | nil => cases hpiece
  | @concat earlier last _ hfollows _ ih =>
      rw [List.flatMap_append, List.mem_append]
      rcases List.mem_append.mp hpiece with hearlier | hlast
      · exact .inl (ih hearlier hline)
      · rw [List.mem_singleton] at hlast
        subst hlast
        rcases List.mem_append.mp hline with hrepeated | hadded
        · rcases hfollows.mem_repeated hrepeated with hread | ⟨previous, hprevious, hmem⟩
          · exact .inl hread
          · exact .inl (ih hprevious hmem)
        · exact .inr (by simpa using hadded)

theorem Laid.lines_ne_nil {pieces : List Piece} (h : Laid limit overlap pieces)
    (hpiece : piece ∈ pieces) : piece.lines ≠ [] := by
  induction h with
  | nil => cases hpiece
  | concat _ _ hne ih =>
      rcases List.mem_append.mp hpiece with hearlier | hlast
      · exact ih hearlier
      · rw [List.mem_singleton] at hlast
        exact hlast ▸ hne

/-- A piece that a header opens continues any pieces. -/
theorem follows_of_header (hheader : isHeader line = true) :
    (Piece.mk [] [line]).Follows limit overlap earlier := by
  refine ⟨by simp, fun _ => rfl, fun _ _ _ => rfl, ?_, ?_⟩
  · intro previous _ hheadless
    have hline := hheadless line rfl
    rw [hheader] at hline
    cases hline
  · intro front back hadded hne header hcurrent
    -- the header itself has been read, so it is the current one
    obtain ⟨rfl, rfl⟩ : front = [line] ∧ back = [] := by
      rcases List.append_eq_singleton_iff.mp hadded.symm with ⟨rfl, -⟩ | hfront
      · exact absurd rfl (hne (List.cons_ne_nil _ _))
      · exact hfront
    rw [currentHeader_concat, if_pos hheader] at hcurrent
    exact hcurrent

/-- A piece goes on following when it adds a line that is no header. -/
theorem Piece.Follows.add (h : piece.Follows limit overlap earlier)
    (hheader : isHeader line = false) :
    (Piece.mk piece.repeated (piece.added ++ [line])).Follows limit overlap earlier := by
  obtain ⟨repeated, added⟩ := piece
  have hhead : ∀ first ∈ (added ++ [line]).head?, first ∈ added.head? ∨ first = line := by
    intro first hfirst
    cases added with
    | nil => exact .inr (Option.some.inj hfirst).symm
    | cons => exact .inl hfirst
  refine ⟨?_, h.first, ?_, ?_, ?_⟩
  · intro other hother
    cases added with
    | nil => cases hother
    | cons first added =>
        rcases List.mem_append.mp hother with hold | hnew
        · exact h.single other hold
        · rw [List.mem_singleton] at hnew
          exact hnew ▸ hheader
  · intro first hfirst hfirstHeader
    rcases hhead first hfirst with hold | rfl
    · exact h.headed first hold hfirstHeader
    · rw [hheader] at hfirstHeader
      cases hfirstHeader
  · intro previous hprevious hheadless
    apply h.flushed previous hprevious
    intro first hfirst
    apply hheadless first
    show first ∈ (added ++ [line]).head?
    rw [List.head?_append, hfirst]
    rfl
  · intro front back hadded hne header hcurrent
    have hfront := hne (by simp)
    have hlines : ∀ opening, (Piece.mk repeated added).lines.head? = some opening →
        (Piece.mk repeated (added ++ [line])).lines.head? = some opening := by
      intro opening hopening
      show (repeated ++ (added ++ [line])).head? = some opening
      rw [← List.append_assoc, List.head?_append, show (repeated ++ added).head? = some opening from
        hopening]
      rfl
    apply hlines
    rcases List.eq_nil_or_concat back with rfl | ⟨behind, last, rfl⟩
    · -- up to the new line: it is no header, so the same header was in force before it
      rw [List.append_nil] at hadded
      rw [← hadded] at hcurrent
      change header ∈ currentHeader (earlier.flatMap Piece.added ++ (added ++ [line])) at hcurrent
      rw [← List.append_assoc, currentHeader_concat, hheader] at hcurrent
      exact h.opening added [] (List.append_nil added).symm id header hcurrent
    · rw [List.concat_eq_append, ← List.append_assoc] at hadded
      obtain ⟨hadded, -⟩ := List.append_inj' hadded rfl
      exact h.opening front behind hadded (fun _ => hfront) header hcurrent

/-- A piece that has reached the limit may be followed by one that repeats the current header and its
last lines. -/
theorem follows_of_limit (hlimit : max limit 1 ≤ piece.lines.length) :
    (Piece.mk ((currentHeader ((earlier ++ [piece]).flatMap Piece.added)).toList ++
      piece.lines.rtake overlap) []).Follows limit overlap (earlier ++ [piece]) := by
  refine ⟨by simp, ?_, ?_, ?_, ?_⟩
  · intro hnil
    simp at hnil
  · intro first hfirst
    cases hfirst
  · intro previous hprevious _
    rw [List.getLast?_concat, Option.mem_some_iff] at hprevious
    subst hprevious
    exact ⟨hlimit, rfl⟩
  · intro front back hadded _ header hcurrent
    obtain ⟨rfl, -⟩ := List.append_eq_nil_iff.mp hadded.symm
    rw [List.append_nil, Option.mem_def] at hcurrent
    show ((currentHeader ((earlier ++ [piece]).flatMap Piece.added)).toList ++ _ ++ []).head? =
      some header
    rw [hcurrent]
    rfl

/-! ## Reading -/

/-- What the state holds after the lines `read`: the closed pieces, laid, and an open one that
continues them. -/
structure State.Reads (limit overlap : Nat) (state : State) (read : List Text) (closed : List Piece)
    (opened : Piece) : Prop where
  closed_eq : state.closed.reverse = closed.map Piece.lines
  pending_eq : state.pending.reverse = opened.lines
  header_eq : state.header = currentHeader read
  read_eq : (closed ++ [opened]).flatMap Piece.added = read
  laid : Laid limit overlap closed
  follows : opened.Follows limit overlap closed

variable {state : State} {read : List Text} {closed : List Piece} {opened : Piece}

theorem reads_initial (limit overlap : Nat) :
    State.initial.Reads limit overlap [] [] ⟨[], []⟩ := by
  refine ⟨rfl, rfl, rfl, rfl, .nil, by simp, fun _ => rfl, fun _ _ _ => rfl, ?_, ?_⟩
  · intro previous hprevious
    cases hprevious
  · intro front back hadded _ header hcurrent
    obtain ⟨rfl, -⟩ := List.append_eq_nil_iff.mp hadded.symm
    cases hcurrent

/-- The pieces once the open one is closed are laid and add all lines read. -/
theorem State.Reads.close (h : state.Reads limit overlap read closed opened) :
    ∃ pieces, state.close.reverse = pieces.map Piece.lines ∧
      pieces.flatMap Piece.added = read ∧ Laid limit overlap pieces := by
  have hlines := h.pending_eq
  unfold State.close
  cases hpending : state.pending with
  | nil =>
      -- an open piece without a line is dropped, and adds none
      rw [hpending] at hlines
      have hadded : opened.added = [] := (List.append_eq_nil_iff.mp hlines.symm).2
      refine ⟨closed, h.closed_eq, ?_, h.laid⟩
      rw [← h.read_eq, List.flatMap_append, List.flatMap_singleton, hadded, List.append_nil]
  | cons line pending =>
      refine ⟨closed ++ [opened], ?_, h.read_eq, h.laid.concat h.follows ?_⟩
      · rw [List.isEmpty_cons, if_neg Bool.false_ne_true, List.reverse_cons, h.closed_eq, ← hpending,
          hlines, List.map_append]
        rfl
      · rw [← hlines, hpending]
        simp

/-- A line that is no header is added to the open piece. -/
theorem State.Reads.add (h : state.Reads limit overlap read closed opened)
    (hheader : isHeader line = false) :
    State.Reads limit overlap { state with pending := line :: state.pending } (read ++ [line]) closed
      ⟨opened.repeated, opened.added ++ [line]⟩ := by
  refine ⟨h.closed_eq, ?_, ?_, ?_, h.laid, h.follows.add hheader⟩
  · show (line :: state.pending).reverse = opened.repeated ++ (opened.added ++ [line])
    rw [List.reverse_cons, h.pending_eq, ← List.append_assoc]
    rfl
  · rw [currentHeader_concat, hheader]
    exact h.header_eq
  · rw [← h.read_eq]
    simp

/-- An open piece that has reached the limit is closed, and the next one repeats what it should. -/
theorem State.Reads.flush (h : state.Reads limit overlap read closed opened)
    (hlimit : max limit 1 ≤ state.pending.length) :
    State.Reads limit overlap
      ⟨state.pending.reverse :: state.closed, state.pending.take overlap ++ state.header.toList,
        state.header⟩
      read (closed ++ [opened]) ⟨(currentHeader read).toList ++ opened.lines.rtake overlap, []⟩ := by
  have hlength : max limit 1 ≤ opened.lines.length := by
    rw [← h.pending_eq, List.length_reverse]
    exact hlimit
  refine ⟨?_, ?_, h.header_eq, ?_, h.laid.concat h.follows ?_, ?_⟩
  · rw [List.reverse_cons, h.closed_eq, h.pending_eq, List.map_append]
    rfl
  · show (state.pending.take overlap ++ state.header.toList).reverse =
      (currentHeader read).toList ++ opened.lines.rtake overlap ++ []
    rw [List.append_nil, List.reverse_append, h.header_eq, ← h.pending_eq,
      List.rtake_eq_reverse_take_reverse, List.reverse_reverse]
    cases currentHeader read <;> rfl
  · rw [List.flatMap_append, h.read_eq]
    exact List.append_nil read
  · intro hnil
    rw [hnil] at hlength
    simp at hlength
  · rw [← h.read_eq]
    exact follows_of_limit hlength

/-- Reading one more line. -/
theorem State.Reads.step (h : state.Reads limit overlap read closed opened) (line : Text) :
    ∃ closed' opened',
      (State.step limit overlap state line).Reads limit overlap (read ++ [line]) closed' opened' := by
  unfold State.step
  split
  · rename_i hheader
    obtain ⟨pieces, hpieces, hadded, hlaid⟩ := h.close
    refine ⟨pieces, ⟨[], [line]⟩, hpieces, rfl, ?_, ?_, hlaid, follows_of_header hheader⟩
    · rw [currentHeader_concat, if_pos hheader]
    · rw [List.flatMap_append, hadded]
      rfl
  · rename_i hheader
    have hadd := h.add (Bool.eq_false_iff.mpr hheader)
    simp only
    split
    · rename_i hlimit
      exact ⟨_, _, hadd.flush hlimit⟩
    · exact ⟨_, _, hadd⟩

theorem State.Reads.foldl (h : state.Reads limit overlap read closed opened) (lines : List Text) :
    ∃ closed' opened', (lines.foldl (State.step limit overlap) state).Reads limit overlap
      (read ++ lines) closed' opened' := by
  induction lines generalizing state read closed opened with
  | nil => exact ⟨closed, opened, by rwa [List.append_nil]⟩
  | cons line lines ih =>
      obtain ⟨closed', opened', hstep⟩ := h.step line
      obtain ⟨closed'', opened'', hrest⟩ := ih hstep
      rw [List.append_assoc] at hrest
      exact ⟨closed'', opened'', hrest⟩

/-! ## Cut queries -/

/-- The pieces cover the lines: cut in two parts they are laid, and the lines they add, in order, are
these lines. -/
def Covers (limit overlap : Nat) (lines : List Text) (pieces : List (List Text)) : Prop :=
  ∃ laid : List Piece, pieces = laid.map Piece.lines ∧ laid.flatMap Piece.added = lines ∧
    Laid limit overlap laid

theorem covers_ofLines (limit overlap : Nat) (lines : List Text) :
    Covers limit overlap lines (ofLines limit overlap lines) := by
  obtain ⟨closed, opened, hreads⟩ := (reads_initial limit overlap).foldl lines
  exact hreads.close

theorem ofLines_ne_nil (limit overlap : Nat) {lines : List Text} (h : lines ≠ []) :
    ofLines limit overlap lines ≠ [] := by
  obtain ⟨laid, hpieces, hadded, -⟩ := covers_ofLines limit overlap lines
  rintro hnil
  rw [hnil, eq_comm, List.map_eq_nil_iff] at hpieces
  rw [hpieces] at hadded
  exact h hadded.symm

theorem mem_of_mem_ofLines {lines piece : List Text} (h : piece ∈ ofLines limit overlap lines) :
    piece ≠ [] ∧ ∀ line ∈ piece, line ∈ lines := by
  obtain ⟨laid, hpieces, hadded, hlaid⟩ := covers_ofLines limit overlap lines
  rw [hpieces] at h
  obtain ⟨piece, hpiece, rfl⟩ := List.mem_map.mp h
  refine ⟨hlaid.lines_ne_nil hpiece, ?_⟩
  intro line hline
  exact hadded ▸ hlaid.mem_added hpiece hline

/-- The lines of a cut query's pieces cover the lines of the query: whatever the limits, dropping what
each piece repeats leaves every line of the query once and in its place, a piece repeats nothing or the
current header and the end of the piece before it, and a piece opens with the header in force. -/
theorem split_covers_lines {query : Text} {limit overlap tokenLimit : Nat}
    (h : tokenLimit ≤ query.length / 4) :
    Covers limit overlap (Text.split '\n' query)
      ((split query limit overlap tokenLimit).map (Text.split '\n')) := by
  have hpiece : ∀ piece ∈ ofLines limit overlap (Text.split '\n' query),
      (Text.split '\n' ∘ Text.join ['\n']) piece = id piece := by
    intro piece hpiece
    obtain ⟨hne, hmem⟩ := mem_of_mem_ofLines hpiece
    exact Text.split_join hne fun line hline => Text.not_mem_of_mem_split (hmem line hline)
  unfold split
  rw [if_neg (Nat.not_lt.mpr h), List.map_map, List.map_congr_left hpiece, List.map_id]
  exact covers_ofLines limit overlap _

/-- Text before the first header, a header right behind a full piece, and a last piece that only
repeats. -/
theorem split_covers_lines_of_twoFiles :
    let query := Text.ofString "+0\na/x b/x\n+1\na/y b/y\n+2\n+3"
    2 ≤ query.length / 4 ∧
      (split query 2 1 2).map (Text.split '\n') =
        ["+0", "a/x b/x\n+1", "a/x b/x\n+1", "a/y b/y\n+2", "a/y b/y\n+2\n+3", "a/y b/y\n+3"].map
          (fun piece => Text.split '\n' (Text.ofString piece)) ∧
      Covers 2 1 (Text.split '\n' query) ((split query 2 1 2).map (Text.split '\n')) := by
  intro query
  have hlimit : 2 ≤ query.length / 4 := by decide
  exact ⟨hlimit, by decide, split_covers_lines hlimit⟩

end CodeRetrieval.QueryPieces
