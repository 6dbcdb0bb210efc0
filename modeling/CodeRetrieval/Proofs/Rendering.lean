/-
# CodeRetrieval.Proofs.Rendering — which lines a chunk shows, and how.

A window is cut out of the numbered lines by counting; it holds exactly the lines whose numbers lie in
the range of the chunk, whatever the range.  Every rendering goes through the window, and the marks of a
cut stand on lines of their own.  A numbered line is none of these marks and holds no line feed, so a
snippet can be read back: without the marks it is the numbered lines of the window.  Chunks that hold
each line of a file once therefore show the numbered listing of the file.
-/
import CodeRetrieval.Proofs.Keys
import CodeRetrieval.Proofs.LineWindows

namespace CodeRetrieval

/-! ## The window -/

/-- Of entries with consecutive numbers those with numbers in a range are found by counting. -/
theorem filter_zipIdx_range {α : Type} (xs : List α) (next low high : Nat) :
    (xs.zipIdx next).filter (fun x => decide (low ≤ x.2 ∧ x.2 ≤ high)) =
      ((xs.zipIdx next).drop (low - next)).take (high + 1 - max low next) := by
  induction xs generalizing next with
  | nil => simp
  | cons x xs ih =>
      rw [List.zipIdx_cons]
      by_cases hlow : low ≤ next
      · have hnone : low - next = 0 := by omega
        have hnone' : low - (next + 1) = 0 := by omega
        have hmax : max low next = next := by omega
        have hmax' : max low (next + 1) = next + 1 := by omega
        rw [hnone, List.drop_zero, hmax]
        have hrest := ih (next + 1)
        rw [hnone', List.drop_zero, hmax'] at hrest
        by_cases hhigh : next ≤ high
        · rw [List.filter_cons_of_pos (by simp [hlow, hhigh]), hrest,
            show high + 1 - next = high + 1 - (next + 1) + 1 by omega, List.take_succ_cons]
        · rw [List.filter_cons_of_neg (by simp [hhigh]), hrest,
            show high + 1 - next = 0 by omega, show high + 1 - (next + 1) = 0 by omega]
          rfl
      · rw [List.filter_cons_of_neg (by simp [hlow]), ih,
          show low - next = low - (next + 1) + 1 by omega, List.drop_succ_cons,
          show max low next = max low (next + 1) by omega]

namespace Chunk

/-- The lines of the file whose numbers lie in the range of the chunk, each with its number. -/
def addressed (chunk : Chunk) : List (Text × Nat) :=
  (chunk.content.lines.zipIdx 1).filter fun line =>
    decide (max chunk.first 1 ≤ line.2 ∧ line.2 ≤ min chunk.last chunk.fileLines)

theorem window_eq_addressed (chunk : Chunk) : chunk.window = chunk.addressed := by
  have hbound : ∀ line ∈ chunk.content.lines.zipIdx 1, line.2 ≤ chunk.fileLines := by
    intro line hline
    have hnumber := (List.mem_zipIdx hline).2.1
    have hcount : chunk.fileLines = chunk.content.lines.length := rfl
    omega
  have hfilter : chunk.addressed = (chunk.content.lines.zipIdx 1).filter fun line =>
      decide (max chunk.first 1 ≤ line.2 ∧ line.2 ≤ chunk.last) := by
    apply List.filter_congr
    intro line hline
    have := hbound line hline
    rw [decide_eq_decide]
    omega
  rw [hfilter, filter_zipIdx_range]
  unfold window
  rw [show max chunk.first 1 - 1 = chunk.first - 1 by omega,
    show max (max chunk.first 1) 1 = max chunk.first 1 by omega]

/-! ## Snippets -/

/-- The line that stands for what is cut off. -/
def ellipsis : Text := ['.', '.', '.']

/-- How a chunk is shown: its lines and no others, in their order; numbered, each behind its number in the
file; and marked, between an ellipsis where the file has lines before the chunk and one where it has lines
behind it. -/
structure Rendered (chunk : Chunk) : Prop where
  text : chunk.text = Text.joinLines (chunk.addressed.map fun line => line.1)
  plain : chunk.snippet false false = chunk.text
  numbered : chunk.snippet false true =
    Text.joinLines (chunk.addressed.map fun line => Text.ofNat line.2 ++ ':' :: ' ' :: line.1)
  marked : ∀ numbered, chunk.snippet true numbered =
    (if 1 < chunk.first then ellipsis ++ ['\n'] else []) ++ chunk.snippet false numbered ++
      (if chunk.last < chunk.fileLines then '\n' :: ellipsis else [])

theorem snippet_true (chunk : Chunk) (numbered : Bool) :
    chunk.snippet true numbered =
      (if 1 < chunk.first then ellipsis ++ ['\n'] else []) ++ chunk.snippet false numbered ++
        (if chunk.last < chunk.fileLines then '\n' :: ellipsis else []) := by
  unfold snippet
  simp [ellipsis]

theorem rendered (chunk : Chunk) : Rendered chunk := by
  refine ⟨?_, ?_, ?_, chunk.snippet_true⟩
  · rw [← window_eq_addressed]
    rfl
  · simp [snippet, text]
  · rw [← window_eq_addressed]
    simp [snippet, numberedLine]

/-! ## Snippets read back -/

/-- The lines of a snippet that stand for no cut. -/
def unmarked (snippet : Text) : List Text :=
  (Text.split '\n' snippet).filter fun line => decide (line ≠ ellipsis)

/-- The mark of a cut, if there is one. -/
def markIf (cut : Prop) [Decidable cut] : List Text := if cut then [ellipsis] else []

section Marks

variable (cut : Prop) [Decidable cut] {lines : List Text}

theorem joinLines_markIf_append (h : lines ≠ []) : Text.joinLines (markIf cut ++ lines) =
    (if cut then ellipsis ++ ['\n'] else []) ++ Text.joinLines lines := by
  unfold markIf
  split
  · rw [Text.joinLines_append (List.cons_ne_nil _ _) h, Text.joinLines_singleton, List.append_assoc]
    rfl
  · rfl

theorem joinLines_append_markIf (h : lines ≠ []) : Text.joinLines (lines ++ markIf cut) =
    Text.joinLines lines ++ (if cut then '\n' :: ellipsis else []) := by
  unfold markIf
  split
  · rw [Text.joinLines_append h (List.cons_ne_nil _ _), Text.joinLines_singleton]
  · rw [List.append_nil, List.append_nil]

theorem lineFeed_not_mem_of_mem_markIf {mark : Text} (h : mark ∈ markIf cut) : '\n' ∉ mark := by
  unfold markIf at h
  split at h
  · rw [List.mem_singleton.mp h]
    decide
  · cases h

theorem filter_markIf : (markIf cut).filter (fun line => decide (line ≠ ellipsis)) = [] := by
  unfold markIf
  split <;> simp

end Marks

variable {chunk : Chunk} {line : Text × Nat}

theorem numberedLine_ne_ellipsis (line : Text × Nat) : numberedLine line ≠ ellipsis := by
  intro h
  have hcolon : ':' ∈ numberedLine line := by simp [numberedLine]
  rw [h] at hcolon
  exact absurd hcolon (by decide)

theorem lineFeed_not_mem_numberedLine (h : line ∈ chunk.window) : '\n' ∉ numberedLine line := by
  have hline : line.1 ∈ chunk.content.lines :=
    List.fst_mem_of_mem_zipIdx (List.mem_of_mem_drop (List.mem_of_mem_take h))
  unfold numberedLine
  simp [Text.not_mem_ofNat, Text.not_mem_of_mem_lines hline]

/-- A snippet that shows a line has its marks on lines of their own. -/
theorem split_snippet (h : chunk.window ≠ []) :
    Text.split '\n' (chunk.snippet true true) = markIf (1 < chunk.first) ++
      chunk.window.map numberedLine ++ markIf (chunk.last < chunk.fileLines) := by
  have hbody : chunk.window.map numberedLine ≠ [] := by rwa [Ne, List.map_eq_nil_iff]
  have hfront : markIf (1 < chunk.first) ++ chunk.window.map numberedLine ≠ [] :=
    List.append_ne_nil_of_right_ne_nil _ hbody
  have hjoined : chunk.snippet true true = Text.joinLines (markIf (1 < chunk.first) ++
      chunk.window.map numberedLine ++ markIf (chunk.last < chunk.fileLines)) := by
    rw [joinLines_append_markIf _ hfront, joinLines_markIf_append _ hbody, snippet_true]
    simp [snippet]
  rw [hjoined]
  apply Text.split_join (List.append_ne_nil_of_left_ne_nil hfront _)
  intro piece hpiece
  rw [List.mem_append, List.mem_append] at hpiece
  rcases hpiece with (hpiece | hpiece) | hpiece
  · exact lineFeed_not_mem_of_mem_markIf _ hpiece
  · obtain ⟨line, hline, rfl⟩ := List.mem_map.mp hpiece
    exact lineFeed_not_mem_numberedLine hline
  · exact lineFeed_not_mem_of_mem_markIf _ hpiece

theorem unmarked_snippet (h : chunk.window ≠ []) :
    unmarked (chunk.snippet true true) = chunk.window.map numberedLine := by
  have hbody : (chunk.window.map numberedLine).filter (fun line => decide (line ≠ ellipsis)) =
      chunk.window.map numberedLine := by
    rw [List.filter_eq_self]
    intro line hline
    obtain ⟨shown, _, rfl⟩ := List.mem_map.mp hline
    exact decide_eq_true (numberedLine_ne_ellipsis shown)
  unfold unmarked
  rw [split_snippet h, List.filter_append, List.filter_append, filter_markIf, filter_markIf, hbody,
    List.nil_append, List.append_nil]

/-! ## The listing of a file -/

/-- The snippets of chunks of tiling ranges, without their marks, list the file. -/
theorem flatMap_unmarked_snippet (file : SourceFile) {ranges : List Span}
    (h : Tiles 1 file.content.lineCount ranges) :
    (ranges.map file.chunkOf).flatMap (fun chunk => unmarked (chunk.snippet true true)) =
      (file.content.lines.zipIdx 1).map numberedLine := by
  have hshown : ∀ range ∈ ranges, unmarked ((file.chunkOf range).snippet true true) =
      (file.chunkOf range).window.map numberedLine := by
    intro range hrange
    obtain ⟨hfirst, hle, hlast⟩ := h.bounds.2 range hrange
    have hcount : file.content.lineCount = file.content.lines.length := rfl
    apply unmarked_snippet
    apply List.ne_nil_of_length_pos
    show 0 < (((file.content.lines.zipIdx 1).drop (range.start - 1)).take
      (range.stop + 1 - max range.start 1)).length
    rw [List.length_take, List.length_drop, List.length_zipIdx]
    omega
  calc (ranges.map file.chunkOf).flatMap (fun chunk => unmarked (chunk.snippet true true))
      = ranges.flatMap fun range => unmarked ((file.chunkOf range).snippet true true) := by
        rw [List.flatMap_map]
    _ = ranges.flatMap fun range => (file.chunkOf range).window.map numberedLine :=
        List.flatMap_congr hshown
    _ = ((ranges.map fun range => (file.chunkOf range).window).flatten).map numberedLine := by
        rw [List.map_flatten, List.map_map, List.flatMap_def]
        rfl
    _ = (file.content.lines.zipIdx 1).map numberedLine := by
        rw [flatten_map_window_chunkOf file h (Nat.le_refl 1)]
        rfl

/-- A chunk of any range shows the lines of its file in this range and no others, plain or numbered, and
marks where the file goes on.  If the chunks of a file hold each of its lines once, cut along a tree or in
windows without overlap, their marked and numbered snippets without the marks are the numbered listing of
the file. -/
theorem snippets_list_file :
    (∀ chunk : Chunk, Rendered chunk) ∧
    ∀ (settings : ChunkSettings) (file : SourceFile), settings.windowOverlap < settings.windowLines →
      file.CutsOnce settings → ∃ chunks, file.chunks settings = .ok chunks ∧
        chunks.flatMap (fun chunk => unmarked (chunk.snippet true true)) =
          (file.content.lines.zipIdx 1).map fun line => Text.ofNat line.2 ++ ':' :: ' ' :: line.1 := by
  refine ⟨rendered, ?_⟩
  intro settings file hwindow hcut
  by_cases hcontent : file.content = []
  · exact ⟨[], SourceFile.chunks_of_nil hcontent hwindow, by rw [hcontent]; rfl⟩
  · obtain ⟨ranges, hranges, htiles⟩ := SourceFile.tiles_ranges hcontent hwindow hcut
    exact ⟨_, SourceFile.chunks_of_ranges hcontent hwindow hranges, flatMap_unmarked_snippet file htiles⟩

/-- Two blocks of lines, the second one cut off at its end. -/
theorem snippets_list_twoBlocks :
    (0 < 50 ∧ SourceFile.twoBlocks.CutsOnce ⟨6, 1, 50, 0⟩) ∧
      ∃ chunks, SourceFile.twoBlocks.chunks ⟨6, 1, 50, 0⟩ = .ok chunks ∧
        chunks.flatMap (fun chunk => unmarked (chunk.snippet true true)) =
          [Text.ofString "1: aa", Text.ofString "2: bb", Text.ofString "3: ", Text.ofString "4: cc",
            Text.ofString "5: d", Text.ofString "6: "] := by
  have hwindow : 0 < 50 := by decide
  have hcut : SourceFile.twoBlocks.CutsOnce ⟨6, 1, 50, 0⟩ := .inl rfl
  obtain ⟨chunks, hchunks, hlisting⟩ := snippets_list_file.2 ⟨6, 1, 50, 0⟩ _ hwindow hcut
  exact ⟨⟨hwindow, hcut⟩, chunks, hchunks, hlisting.trans (by decide)⟩

end Chunk

end CodeRetrieval
