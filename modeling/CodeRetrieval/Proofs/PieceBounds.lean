/-
# CodeRetrieval.Proofs.PieceBounds — how many pieces a cut query has, and how long they are.

A piece is closed as soon as it reaches the limit, but the next one may open with more lines than the
limit allows: the current header and the whole overlap.  One more line closes that piece as well, so the
overlap and two lines are the other bound on a piece, and the open piece is always below the limit or no
longer than what it repeats.  Every line closes one piece at most.

With an overlap below the limit a closed piece is longer than what the next one repeats of it, so its
first line, the only one that may be a header, is not repeated among its last ones.
-/
import CodeRetrieval.Proofs.QueryPieces

namespace CodeRetrieval.QueryPieces

variable {limit overlap read : Nat} {state : State}

/-! ## Lengths -/

/-- After `read` lines the open piece is below the limit or no longer than a header and the overlap, no
closed piece is longer than the limit or two lines more than the overlap, and there are no more of them
than lines. -/
structure State.Bounded (limit overlap read : Nat) (state : State) : Prop where
  opened : state.pending.length < max limit 1 ∨ state.pending.length ≤ overlap + 1
  short : ∀ piece ∈ state.closed, piece.length ≤ max limit (overlap + 2)
  few : state.closed.length ≤ read

theorem bounded_initial (limit overlap : Nat) : State.initial.Bounded limit overlap 0 := by
  refine ⟨.inr ?_, ?_, ?_⟩ <;> simp [State.initial]

/-- Closing the open piece adds one piece at most, and none that is too long. -/
theorem State.Bounded.close (h : state.Bounded limit overlap read) :
    (∀ piece ∈ state.close, piece.length ≤ max limit (overlap + 2)) ∧
      state.close.length ≤ read + 1 := by
  have hopened := h.opened
  have hfew := h.few
  unfold State.close
  split
  · exact ⟨h.short, by omega⟩
  · refine ⟨List.forall_mem_cons.mpr ⟨?_, h.short⟩, ?_⟩
    · rw [List.length_reverse]
      omega
    · simpa using hfew

/-- Reading a line keeps the bounds. -/
theorem State.Bounded.step (h : state.Bounded limit overlap read) (line : Text) :
    (State.step limit overlap state line).Bounded limit overlap (read + 1) := by
  have hopened := h.opened
  have hfew := h.few
  unfold State.step
  split
  · refine ⟨.inr ?_, h.close.1, h.close.2⟩
    simp
  · simp only [List.length_cons]
    split
    · rename_i hlimit
      -- what the next piece repeats: the overlap at most, and one header at most
      refine ⟨.inr ?_, List.forall_mem_cons.mpr ⟨?_, h.short⟩, ?_⟩
      · have hheader : state.header.toList.length ≤ 1 := by cases state.header <;> simp
        rw [List.length_append, List.length_take]
        omega
      · rw [List.length_reverse, List.length_cons]
        omega
      · simpa using hfew
    · rename_i hlimit
      refine ⟨.inl ?_, h.short, Nat.le_succ_of_le hfew⟩
      show (line :: state.pending).length < max limit 1
      rw [List.length_cons]
      omega

theorem State.Bounded.foldl (h : state.Bounded limit overlap read) (lines : List Text) :
    (lines.foldl (State.step limit overlap) state).Bounded limit overlap (read + lines.length) := by
  induction lines generalizing state read with
  | nil => exact h
  | cons line lines ih =>
      have hrest := ih (h.step line)
      rw [List.length_cons, Nat.add_comm lines.length 1, ← Nat.add_assoc]
      exact hrest

theorem bounds_ofLines (limit overlap : Nat) (lines : List Text) :
    (∀ piece ∈ ofLines limit overlap lines, piece.length ≤ max limit (overlap + 2)) ∧
      (ofLines limit overlap lines).length ≤ lines.length + 1 := by
  have hbounded := (bounded_initial limit overlap).foldl lines
  rw [Nat.zero_add] at hbounded
  unfold ofLines
  refine ⟨?_, ?_⟩
  · intro piece hpiece
    exact hbounded.close.1 piece (List.mem_reverse.mp hpiece)
  · rw [List.length_reverse]
    exact hbounded.close.2

/-! ## Headers -/

/-- Lines of which none but the first one may be a header. -/
def HeaderFirst (lines : List Text) : Prop := ∀ line ∈ lines.tail, isHeader line = false

/-- Lines that are no headers may stand behind a header. -/
theorem headerFirst_append {header : Option Text} {lines : List Text}
    (h : ∀ line ∈ lines, isHeader line = false) : HeaderFirst (header.toList ++ lines) := by
  intro line hline
  cases header with
  | none => exact h line (List.mem_of_mem_tail hline)
  | some => exact h line hline

/-- The last lines of a list, fewer than all of them, do not reach its first one. -/
theorem mem_tail_of_mem_rtake {lines : List Text} {line : Text} (h : overlap < lines.length)
    (hline : line ∈ lines.rtake overlap) : line ∈ lines.tail := by
  unfold List.rtake at hline
  rw [← List.drop_one]
  exact List.drop_subset_drop_left lines (by omega) hline

/-- A piece keeps its headers to the first line if the piece before it does and is longer than the
overlap. -/
theorem Piece.Follows.headerFirst {earlier : List Piece} {piece : Piece}
    (h : piece.Follows limit overlap earlier) (hoverlap : overlap < limit)
    (hearlier : ∀ previous ∈ earlier, HeaderFirst previous.lines) : HeaderFirst piece.lines := by
  by_cases hrepeated : piece.repeated = []
  · intro line hline
    rw [Piece.lines, hrepeated, List.nil_append] at hline
    exact h.single line hline
  · have hheadless : ∀ line ∈ piece.added.head?, isHeader line = false := by
      intro line hline
      rw [Bool.eq_false_iff]
      exact fun hheader => hrepeated (h.headed line hline hheader)
    have hadded : ∀ line ∈ piece.added, isHeader line = false := by
      intro line hline
      cases hpiece : piece.added with
      | nil => simp [hpiece] at hline
      | cons first rest =>
          rw [hpiece] at hline hheadless
          rcases List.mem_cons.mp hline with rfl | hline
          · exact hheadless line rfl
          · exact h.single line (by rw [hpiece]; exact hline)
    cases hlast : earlier.getLast? with
    | none => exact absurd (h.first (List.getLast?_eq_none_iff.mp hlast)) hrepeated
    | some previous =>
        obtain ⟨hlimit, heq⟩ := h.flushed previous hlast hheadless
        have hprevious := hearlier previous (List.mem_of_getLast? hlast)
        rw [Piece.lines, heq, List.append_assoc]
        apply headerFirst_append
        intro line hline
        rcases List.mem_append.mp hline with htail | hline
        · -- the piece before is longer than the overlap, so its first line is not among these
          exact hprevious line (mem_tail_of_mem_rtake (by omega) htail)
        · exact hadded line hline

/-- With an overlap below the limit only the first line of a laid piece may be a header. -/
theorem Laid.headerFirst {pieces : List Piece} (h : Laid limit overlap pieces)
    (hoverlap : overlap < limit) : ∀ piece ∈ pieces, HeaderFirst piece.lines := by
  induction h with
  | nil => simp
  | concat _ hfollows _ ih =>
      intro piece hpiece
      rcases List.mem_append.mp hpiece with hearlier | hlast
      · exact ih piece hearlier
      · rw [List.mem_singleton.mp hlast]
        exact hfollows.headerFirst hoverlap ih

/-! ## Cut queries -/

/-- Pieces of some lines that keep within bounds: none is empty, none is longer than the limit or two
lines more than the overlap, there is one more of them than lines at most, and with an overlap below the
limit a header stands in the first line of a piece only. -/
structure WithinBounds (limit overlap : Nat) (lines : List Text) (pieces : List (List Text)) :
    Prop where
  nonempty : ∀ piece ∈ pieces, piece ≠ []
  short : ∀ piece ∈ pieces, piece.length ≤ max limit (overlap + 2)
  few : pieces.length ≤ lines.length + 1
  headed : overlap < limit → ∀ piece ∈ pieces, HeaderFirst piece

theorem withinBounds_ofLines (limit overlap : Nat) (lines : List Text) :
    WithinBounds limit overlap lines (ofLines limit overlap lines) := by
  obtain ⟨hshort, hfew⟩ := bounds_ofLines limit overlap lines
  obtain ⟨laid, hpieces, -, hlaid⟩ := covers_ofLines limit overlap lines
  refine ⟨fun piece hpiece => (mem_of_mem_ofLines hpiece).1, hshort, hfew, ?_⟩
  intro hoverlap
  rw [hpieces]
  exact List.forall_mem_map.mpr (hlaid.headerFirst hoverlap)

/-- The lines of the pieces of a query that is cut: no line holds a line feed, so a piece has the lines
that it was put together from. -/
theorem lines_of_split {query : Text} {tokenLimit : Nat} (h : tokenLimit ≤ query.length / 4) :
    (split query limit overlap tokenLimit).map (Text.split '\n') =
      ofLines limit overlap (Text.split '\n' query) := by
  unfold split
  rw [if_neg (by omega)]
  apply Text.map_split_join
  intro piece hpiece
  obtain ⟨hne, hmem⟩ := mem_of_mem_ofLines hpiece
  exact ⟨hne, fun line hline => Text.not_mem_of_mem_split (hmem line hline)⟩

/-- A query has a piece, and the pieces of a query that is cut keep within their bounds, whatever the
limit and the overlap. -/
theorem split_within_bounds (query : Text) (limit overlap tokenLimit : Nat) :
    split query limit overlap tokenLimit ≠ [] ∧
      (tokenLimit ≤ query.length / 4 →
        WithinBounds limit overlap (Text.split '\n' query)
          ((split query limit overlap tokenLimit).map (Text.split '\n'))) := by
  refine ⟨?_, ?_⟩
  · unfold split
    split
    · exact List.cons_ne_nil _ _
    · rw [ne_eq, List.map_eq_nil_iff]
      exact ofLines_ne_nil limit overlap (Text.split_ne_nil '\n' query)
  · intro h
    rw [lines_of_split h]
    exact withinBounds_ofLines limit overlap _

/-- A piece that holds nothing but what it repeats is closed by a header, and the last one by the end. -/
theorem split_of_repeats_within_bounds :
    let query := Text.ofString "a/x b/x\n+1\na/y b/y\n+2\n+3"
    let pieces := (split query 2 1 2).map (Text.split '\n')
    (2 ≤ query.length / 4 ∧ 1 < 2) ∧
      pieces.map List.length = [2, 2, 2, 3, 2] ∧ split query 2 1 2 ≠ [] ∧
      WithinBounds 2 1 (Text.split '\n' query) pieces ∧ ∀ piece ∈ pieces, HeaderFirst piece := by
  intro query pieces
  have hlimit : 2 ≤ query.length / 4 := by decide
  obtain ⟨hne, hcut⟩ := split_within_bounds query 2 1 2
  exact ⟨⟨hlimit, by decide⟩, by decide, hne, hcut hlimit, (hcut hlimit).headed (by decide)⟩

/-- An overlap that is not below the limit repeats the header among the last lines, and the bound of two
lines more is met. -/
example : (ofLines 1 2 (["a/x b/x", "+1", "+2"].map Text.ofString)).map (·.map String.ofList) =
    [["a/x b/x", "+1"], ["a/x b/x", "a/x b/x", "+1", "+2"], ["a/x b/x", "+1", "+2"]] := by decide

end CodeRetrieval.QueryPieces
