/-
# CodeRetrieval.Proofs.LineCoverage — the chunks of a file hold each of its lines once.

`Tiles` says of a list of line ranges that they hold every line from one to another, in order and each
line once.  The line ranges of contiguous byte spans need not tile the file: ranges of one line are
dropped.  What is left is separated, every range ends before the next one starts, and stretching
separated ranges to the start of their successor makes them tile.  Joining a short tail keeps that, and
so does cutting the last range off at the line count.  Line windows without overlap tile by themselves.
-/
import CodeRetrieval.Proofs.Coalescing
import CodeRetrieval.Proofs.LineTable
import CodeRetrieval.Proofs.Packing
import CodeRetrieval.Corpus
import Mathlib.Data.List.Chain

namespace CodeRetrieval

/-- The ranges hold each line from `next` to `last` once and in order, and none is inverted. -/
def Tiles (next last : Nat) : List Span → Prop
  | [] => next = last + 1
  | range :: rest =>
    range.start = next ∧ range.start ≤ range.stop ∧ Tiles (range.stop + 1) last rest

/-! ## Ranges that are kept -/

/-- The ranges hold two lines at least, all of them below `bound`, and each ends before the next one
starts. -/
structure Separated (bound : Nat) (ranges : List Span) : Prop where
  ahead : ranges.Pairwise fun a b => a.stop < b.start
  several : ∀ range ∈ ranges, range.start < range.stop
  bounded : ∀ range ∈ ranges, range.stop ≤ bound

namespace LineTable

variable {text : Text}

theorem stop_following_of_not_isEmpty {table : LineTable} {s : Span}
    (h : (table.following s).isEmpty = false) :
    (table.following s).start < table.lineOf s.stop ∧
      (table.following s).stop = table.lineOf s.stop := by
  have hlt : (table.following s).start < (table.following s).stop := by
    rw [Bool.eq_false_iff, ne_eq, Span.isEmpty_iff] at h
    omega
  unfold following at hlt ⊢
  simp only at hlt ⊢
  omega

/-- The line ranges of contiguous spans that hold several lines are separated. -/
theorem separated_ranges (text : Text) {stop : Nat} {spans : List Span} (h : Contiguous 0 stop spans) :
    Separated text.lineCount
      (((ofText text).ranges spans).filter fun range => !range.isEmpty) := by
  have hmono := lineOf_mono text
  have hle := lineOf_le_lineCount text
  cases spans with
  | nil => exact ⟨.nil, by simp [ranges], by simp [ranges]⟩
  | cons first rest =>
      have hpairwise := h.pairwise.2
      rw [List.pairwise_cons] at hpairwise
      obtain ⟨hfirst, hrest⟩ := hpairwise
      -- a range that is kept ends in the line its span ends in, and the next one starts behind it
      have hahead : ((ofText text).ranges (first :: rest)).Pairwise fun a b =>
          a.isEmpty = false → a.stop < b.start := by
        refine List.pairwise_cons.mpr ⟨?_, List.pairwise_map.mpr (hrest.imp ?_)⟩
        · intro range hrange _
          obtain ⟨s, hs, rfl⟩ := List.mem_map.mp hrange
          exact Nat.lt_succ_of_le (hmono (hfirst s hs))
        · intro a b hab hempty
          rw [(stop_following_of_not_isEmpty hempty).2]
          exact Nat.lt_succ_of_le (hmono hab)
      refine ⟨?_, ?_, ?_⟩
      · refine (List.pairwise_filter.mpr (hahead.imp ?_))
        intro a b hab ha _
        exact hab (by simpa using ha)
      · intro range hrange
        have hempty := (List.mem_filter.mp hrange).2
        rw [Bool.not_eq_true', Bool.eq_false_iff, ne_eq, Span.isEmpty_iff] at hempty
        omega
      · intro range hrange
        obtain ⟨hmem, hempty⟩ := List.mem_filter.mp hrange
        rcases List.mem_cons.mp hmem with rfl | hmem
        · exact hle first.stop
        · obtain ⟨s, _, rfl⟩ := List.mem_map.mp hmem
          rw [(stop_following_of_not_isEmpty (by simpa using hempty)).2]
          exact hle s.stop

/-- The last line range ends in the line its span ends in, or else in the one after that it starts in. -/
theorem bounds_of_getLast_ranges {table : LineTable} {spans : List Span} {last final : Span}
    (h : (table.ranges (spans ++ [last])).getLast? = some final) :
    table.lineOf last.stop ≤ final.stop ∧
      final.stop ≤ max (table.lineOf last.start + 1) (table.lineOf last.stop) := by
  cases spans with
  | nil =>
      simp only [ranges, List.nil_append, List.map_nil, List.getLast?_singleton,
        Option.some.injEq] at h
      rw [← h]
      exact ⟨Nat.le_refl _, Nat.le_max_right _ _⟩
  | cons first spans =>
      rw [List.cons_append, ranges, List.map_append, List.map_singleton, ← List.cons_append,
        List.getLast?_concat, Option.some.injEq] at h
      rw [← h]
      exact ⟨Nat.le_max_right _ _, Nat.le_refl _⟩

/-- The last line range reaches the line count if the last span reaches the end of the text. -/
theorem lineCount_le_of_getLast {stop : Nat} {spans : List Span} {final : Span}
    (h : Contiguous 0 stop spans) (hstop : text.size ≤ stop)
    (hfinal : ((ofText text).ranges spans).getLast? = some final) :
    text.lineCount ≤ final.stop := by
  rcases List.eq_nil_or_concat spans with rfl | ⟨spans, last, rfl⟩
  · simp [ranges] at hfinal
  · rw [List.concat_eq_append] at h hfinal
    obtain ⟨middle, _, _, _, hlast⟩ := contiguous_append.mp h
    have hlines : (ofText text).lineOf last.stop = text.lineCount := by
      rw [show last.stop = stop from hlast]
      exact lineOf_of_size_le hstop
    rw [← hlines]
    exact (bounds_of_getLast_ranges hfinal).1

end LineTable

/-! ## Stretching and joining -/

theorem map_start_stretchRanges (last : Nat) (ranges : List Span) :
    (stretchRanges last ranges).map Span.start = ranges.map Span.start := by
  fun_induction stretchRanges last ranges with
  | case1 => rfl
  | case2 => rfl
  | case3 range next rest ih =>
      rw [List.map_cons, ih]
      rfl

/-- Separated ranges, stretched to the start of their successors, tile. -/
theorem tiles_stretchRanges (last : Nat) {first : Span} {rest : List Span}
    (hahead : (first :: rest).Pairwise fun a b => a.stop < b.start)
    (hle : ∀ range ∈ first :: rest, range.start ≤ range.stop) :
    ∃ stop, last ≤ stop ∧ Tiles first.start stop (stretchRanges last (first :: rest)) := by
  induction rest generalizing first with
  | nil =>
      refine ⟨max first.stop last, Nat.le_max_right _ _, rfl, ?_, rfl⟩
      exact Nat.le_trans (hle first (by simp)) (Nat.le_max_left _ _)
  | cons next rest ih =>
      rw [List.pairwise_cons] at hahead
      rw [List.forall_mem_cons] at hle
      obtain ⟨stop, hstop, htiles⟩ := ih hahead.2 hle.2
      have hnext := hahead.1 next (by simp)
      have hfirst := hle.1
      refine ⟨stop, hstop, rfl, ?_, ?_⟩
      · show first.start ≤ next.start - 1
        omega
      · show Tiles (next.start - 1 + 1) stop _
        rw [Nat.sub_add_cancel (by omega)]
        exact htiles

theorem tiles_joinShortTail {threshold next last : Nat} {ranges : List Span}
    (h : Tiles next last ranges) : Tiles next last (joinShortTail threshold ranges) := by
  fun_induction joinShortTail threshold ranges generalizing next with
  | case1 => exact h
  | case2 => exact h
  | case3 range tail _ =>
      obtain ⟨rfl, hle, htail, hle', hlast⟩ := h
      have hlast' : tail.stop + 1 = last + 1 := hlast
      refine ⟨rfl, ?_, hlast'⟩
      show range.start ≤ tail.stop
      omega
  | case4 => exact h
  | case5 range next' other rest ih =>
      obtain ⟨rfl, hle, hrest⟩ := h
      exact ⟨rfl, hle, ih hrest⟩

theorem start_of_mem_joinShortTail {threshold : Nat} {ranges : List Span} {range : Span}
    (h : range ∈ joinShortTail threshold ranges) : range.start ∈ ranges.map Span.start := by
  fun_induction joinShortTail threshold ranges with
  | case1 => cases h
  | case2 => exact List.mem_map_of_mem h
  | case3 =>
      rw [List.mem_singleton] at h
      subst h
      exact List.mem_cons_self
  | case4 => exact List.mem_map_of_mem h
  | case5 first next other rest ih =>
      rcases List.mem_cons.mp h with rfl | h
      · exact List.mem_cons_self
      · exact List.mem_cons_of_mem _ (ih h)

/-- Separated ranges, the first one brought back to line zero, tile once they are stretched and a short
tail is joined, and each starts below the bound. -/
theorem Separated.tiles {bound : Nat} {first : Span} {rest : List Span}
    (h : Separated bound (first :: rest)) (threshold last : Nat) :
    ∃ stop, last ≤ stop ∧
      Tiles 0 stop (joinShortTail threshold (stretchRanges last (⟨0, first.stop⟩ :: rest))) ∧
      ∀ range ∈ joinShortTail threshold (stretchRanges last (⟨0, first.stop⟩ :: rest)),
        range.start < bound := by
  obtain ⟨hahead, hseveral, hbounded⟩ := h
  rw [List.forall_mem_cons] at hseveral hbounded
  have hahead' : ((⟨0, first.stop⟩ : Span) :: rest).Pairwise fun a b => a.stop < b.start :=
    List.pairwise_cons.mpr (List.pairwise_cons.mp hahead)
  have hle : ∀ range ∈ (⟨0, first.stop⟩ : Span) :: rest, range.start ≤ range.stop := by
    refine List.forall_mem_cons.mpr ⟨Nat.zero_le _, ?_⟩
    intro range hrange
    exact Nat.le_of_lt (hseveral.2 range hrange)
  obtain ⟨stop, hstop, htiles⟩ := tiles_stretchRanges last hahead' hle
  refine ⟨stop, hstop, tiles_joinShortTail htiles, ?_⟩
  intro range hrange
  have hstart := start_of_mem_joinShortTail hrange
  rw [map_start_stretchRanges, List.map_cons, List.mem_cons, List.mem_map] at hstart
  rcases hstart with hzero | ⟨range', hmem, hstart⟩
  · -- the first range was brought back to zero, and it holds a line
    have hzero' : range.start = 0 := hzero
    omega
  · have hlt := hseveral.2 range' hmem
    have hbound := hbounded.2 range' hmem
    omega

/-- The ranges left of a text's contiguous spans tile its lines, up to one past the last line. -/
theorem tiles_dropDegenerate {text : Text} {stop : Nat} {spans : List Span} (threshold : Nat)
    (h : Contiguous 0 stop spans) (htext : text ≠ []) (hstop : text.size ≤ stop) :
    ∃ last, text.lineCount ≤ last ∧
      Tiles 0 last (dropDegenerate threshold ((LineTable.ofText text).ranges spans)) ∧
      ∀ range ∈ dropDegenerate threshold ((LineTable.ofText text).ranges spans),
        range.start < text.lineCount := by
  have hcount := Text.lineCount_pos htext
  have hsize := Text.size_pos htext
  have hseparated := LineTable.separated_ranges text h
  unfold dropDegenerate
  split
  · rename_i hnone
    rw [List.getLast?_eq_none_iff] at hnone
    cases spans with
    | nil =>
        have hzero : 0 = stop := h
        omega
    | cons => cases hnone
  · rename_i final hfinal
    have hlast := LineTable.lineCount_le_of_getLast h hstop hfinal
    split
    · refine ⟨final.stop, hlast, ⟨rfl, Nat.zero_le _, rfl⟩, ?_⟩
      intro range hrange
      rw [List.mem_singleton.mp hrange]
      exact hcount
    · rename_i first rest hkept
      rw [hkept] at hseparated
      obtain ⟨last, hle, htiles, hstarts⟩ := hseparated.tiles threshold final.stop
      exact ⟨last, Nat.le_trans hlast hle, htiles, hstarts⟩

/-! ## Ranges of a file -/

/-- The packed spans of a source, their gaps closed, merged. -/
def SyntaxTree.merged (tree : SyntaxTree) (source : Text) (budget threshold : Nat) : List Span :=
  coalesce threshold source (closeGaps (max tree.range.stop source.size) (tree.pack budget))

/-- The merged spans run to the end of the source, or to that of a tree that reaches behind it. -/
theorem SyntaxTree.contiguous_merged (tree : SyntaxTree) (source : Text) (budget threshold : Nat) :
    Contiguous 0 (max tree.range.stop source.size) (tree.merged source budget threshold) := by
  have htotal : source.size ≤ max tree.range.stop source.size := Nat.le_max_right _ _
  obtain ⟨front, last, hclosed, hlast, _⟩ := closeGaps_eq_concat (max tree.range.stop source.size)
    (pack_ne_nil budget tree)
  have hcontiguous := contiguous_coalesce threshold front (hlast ▸ htotal)
  rwa [← hclosed, hlast] at hcontiguous

/-- Cut along a tree, whatever nodes it has, the ranges of a source tile its lines, up to one past the
last line. -/
theorem tiles_lineRanges (tree : SyntaxTree) {source : Text} (budget threshold : Nat)
    (hsource : source ≠ []) :
    ∃ last, source.lineCount ≤ last ∧ Tiles 0 last (tree.lineRanges source budget threshold) ∧
      ∀ range ∈ tree.lineRanges source budget threshold, range.start < source.lineCount := by
  have hcount := Text.lineCount_pos hsource
  have hsize := Text.size_pos hsource
  have htotal : source.size ≤ max tree.range.stop source.size := Nat.le_max_right _ _
  unfold SyntaxTree.lineRanges
  simp only
  split
  · rename_i hnil
    exact absurd hnil (pack_ne_nil budget tree)
  · refine ⟨source.lineCount, Nat.le_refl _, ?_, ?_⟩
    · rw [LineTable.lineOf_of_size_le htotal]
      exact ⟨rfl, Nat.zero_le _, rfl⟩
    · intro range hrange
      rw [List.mem_singleton.mp hrange]
      exact hcount
  · have hcontiguous := tree.contiguous_merged source budget threshold
    unfold SyntaxTree.merged at hcontiguous
    split
    · rename_i hnil
      rw [hnil] at hcontiguous
      have hzero : 0 = max tree.range.stop source.size := hcontiguous
      omega
    · exact tiles_dropDegenerate threshold hcontiguous hsource htotal

/-- Counted from one and cut off at the line count, the ranges tile the lines exactly. -/
theorem tiles_map_cutOff {count next last : Nat} {ranges : List Span} (h : Tiles next last ranges)
    (hcount : count ≤ last + 1) (hstarts : ∀ range ∈ ranges, range.start < count)
    (hne : ranges ≠ []) :
    Tiles (next + 1) count
      (ranges.map fun range => ⟨range.start + 1, min (range.stop + 1) count⟩) := by
  induction ranges generalizing next with
  | nil => exact absurd rfl hne
  | cons range rest ih =>
      obtain ⟨rfl, hle, hrest⟩ := h
      rw [List.forall_mem_cons] at hstarts
      obtain ⟨hstart, hstarts⟩ := hstarts
      refine ⟨rfl, ?_, ?_⟩
      · show range.start + 1 ≤ min (range.stop + 1) count
        omega
      · show Tiles (min (range.stop + 1) count + 1) count _
        cases rest with
        | nil =>
            have hlast : range.stop + 1 = last + 1 := hrest
            show min (range.stop + 1) count + 1 = count + 1
            omega
        | cons range' rest =>
            -- the next range starts below the line count, so this one is not cut off
            have hnext : range'.start = range.stop + 1 := hrest.1
            have hbelow := hstarts range' List.mem_cons_self
            rw [Nat.min_eq_left (by omega)]
            exact ih hrest hstarts (List.cons_ne_nil _ _)

/-! ### Windows whose ends are machine words -/

/-- The windows from line `start` on, each ended by a number of whatever size. -/
def plainWindows (length overlap start : Nat) (todo : Nat) : List Span :=
  if todo = 0 ∨ length ≤ overlap then []
  else
    ⟨start + 1, start + min length todo⟩ ::
      plainWindows length overlap (start + (length - overlap)) (todo - (length - overlap))
termination_by todo
decreasing_by omega

/-- The windows of `todo` lines from line `start` on have ends that are words: so many steps on, as long
as a line is left, the length still leads to a word. -/
def Fits (words length overlap start todo : Nat) : Prop :=
  ∀ steps, steps * (length - overlap) < todo → start + steps * (length - overlap) + length < words

section Fits

variable {words length overlap start todo : Nat}

theorem Fits.mono {words' : Nat} (h : Fits words length overlap start todo) (hle : words ≤ words') :
    Fits words' length overlap start todo :=
  fun steps hsteps => Nat.lt_of_lt_of_le (h steps hsteps) hle

theorem Fits.next (h : Fits words length overlap start todo) :
    Fits words length overlap (start + (length - overlap)) (todo - (length - overlap)) := by
  intro steps hsteps
  have hnext := h (steps + 1)
  rw [Nat.succ_mul] at hnext
  omega

/-- A sum that is a word is the sum. -/
theorem addWords_eq {a b : Nat} (h : a + b < words) : addWords words a b = a + b := Nat.mod_eq_of_lt h

/-- Windows that fit are cut as if numbers had no bound. -/
theorem windowsFrom_eq_plainWindows (h : Fits words length overlap start todo) :
    windowsFrom words length overlap start todo = plainWindows length overlap start todo := by
  fun_induction plainWindows length overlap start todo with
  | case1 start todo hdone => rw [windowsFrom, if_pos hdone]
  | case2 start todo hmore ih =>
      have hsum : start + length < words := by
        have hfirst := h 0
        omega
      have hend : min (start + length) (start + todo) = start + min length todo := by omega
      rw [windowsFrom, if_neg hmore, ih h.next, addWords_eq hsum, hend]

end Fits

/-- Windows that do not overlap fit on every machine that holds the file and the length: each begins where
a whole one has ended, so its own length is within the file's lines once more. -/
theorem fits_of_overlap_zero (lines length : Nat) :
    Fits (wordsFor lines length) length 0 0 lines := by
  intro steps hsteps
  unfold wordsFor
  rw [Nat.sub_zero] at hsteps ⊢
  rcases Nat.eq_zero_or_pos steps with rfl | hpos
  · omega
  · have hle : length ≤ steps * length := Nat.le_mul_of_pos_left length hpos
    omega

theorem tiles_plainWindows {length : Nat} (h : 0 < length) (start todo : Nat) :
    Tiles (start + 1) (start + todo) (plainWindows length 0 start todo) := by
  fun_induction plainWindows length 0 start todo with
  | case1 start todo hdone =>
      have htodo : todo = 0 := by omega
      rw [htodo]
      exact rfl
  | case2 start todo hmore ih =>
      refine ⟨rfl, ?_, ?_⟩
      · show start + 1 ≤ start + min length todo
        omega
      · show Tiles (start + min length todo + 1) (start + todo) _
        rw [Nat.sub_zero] at ih ⊢
        by_cases hlast : length ≤ todo
        · have hsum : start + length + (todo - length) = start + todo := by omega
          rw [Nat.min_eq_left hlast]
          rwa [hsum] at ih
        · rw [Nat.min_eq_right (by omega), Nat.sub_eq_zero_of_le (by omega), plainWindows,
            if_pos (.inl rfl)]
          exact rfl

namespace SourceFile

/-- Whether the lines of the file are promised to be covered once: it is cut along a tree, or its
windows do not overlap. -/
def CutsOnce (settings : ChunkSettings) (file : SourceFile) : Prop :=
  file.cuttingTree.isSome ∨ settings.windowOverlap = 0

variable {settings : ChunkSettings} {file : SourceFile}

theorem tiles_ranges (hcontent : file.content ≠ [])
    (hwindow : settings.windowOverlap < settings.windowLines) (hcut : file.CutsOnce settings) :
    ∃ ranges, file.ranges settings = .ok ranges ∧ Tiles 1 file.content.lineCount ranges := by
  unfold ranges
  simp only
  split
  · rename_i tree _
    obtain ⟨last, hlast, htiles, hstarts⟩ :=
      tiles_lineRanges tree settings.budget settings.threshold hcontent
    refine ⟨_, rfl, tiles_map_cutOff htiles (by omega) hstarts ?_⟩
    rintro hnil
    rw [hnil] at htiles
    exact absurd htiles (Nat.succ_ne_zero last).symm
  · rename_i hnone
    have hoverlap : settings.windowOverlap = 0 := by
      rcases hcut with hsome | hoverlap
      · rw [hnone] at hsome
        cases hsome
      · exact hoverlap
    have hok : checkWindow settings.windowLines settings.windowOverlap = .ok () :=
      if_neg (by omega)
    refine ⟨windowsFrom (wordsFor file.content.lineCount settings.windowLines) settings.windowLines
      settings.windowOverlap 0 file.content.lineCount, ?_, ?_⟩
    · unfold lineWindows
      rw [hok]
      rfl
    · rw [hoverlap, windowsFrom_eq_plainWindows (fits_of_overlap_zero _ _)]
      have htiles := tiles_plainWindows (Nat.lt_of_le_of_lt (Nat.zero_le _) hwindow) 0
        file.content.lineCount
      rwa [Nat.zero_add, Nat.zero_add] at htiles

-- two blocks of lines, each with a blank line behind it
example : ranges ⟨6, 1, 50, 0⟩ ⟨['m'], .python,
    ['a', 'a', '\n', 'b', 'b', '\n', '\n', 'c', 'c', '\n', 'd', '\n', '\n'],
    some (.node ⟨0, 12⟩ [.node ⟨0, 5⟩ [], .node ⟨7, 11⟩ []])⟩ = .ok [⟨1, 4⟩, ⟨5, 6⟩] := by cbv

/-- The chunk of a range of the file's lines. -/
def chunkOf (file : SourceFile) (range : Span) : Chunk :=
  ⟨file.content, file.path, range.start, range.stop, file.language⟩

/-- With sound windows an empty file has no chunks. -/
theorem chunks_of_nil (hcontent : file.content = [])
    (hwindow : settings.windowOverlap < settings.windowLines) : file.chunks settings = .ok [] := by
  have hok : checkWindow settings.windowLines settings.windowOverlap = .ok () :=
    if_neg (by omega)
  unfold chunks
  rw [hok, hcontent]
  rfl

/-- With sound windows a file that has a line has the chunks of its ranges. -/
theorem chunks_of_ranges {ranges : List Span} (hcontent : file.content ≠ [])
    (hwindow : settings.windowOverlap < settings.windowLines)
    (hranges : file.ranges settings = .ok ranges) :
    file.chunks settings = .ok (ranges.map file.chunkOf) := by
  have hok : checkWindow settings.windowLines settings.windowOverlap = .ok () :=
    if_neg (by omega)
  have hcount : ¬ file.content.lineCount = 0 := by
    have := Text.lineCount_pos hcontent
    omega
  unfold chunks
  rw [hok, hranges]
  simp only [bind, Except.bind, if_neg hcount]
  rfl

end SourceFile

/-! ## Chunks -/

theorem Tiles.bounds {next last : Nat} {ranges : List Span} (h : Tiles next last ranges) :
    next ≤ last + 1 ∧
      ∀ range ∈ ranges, next ≤ range.start ∧ range.start ≤ range.stop ∧ range.stop ≤ last := by
  induction ranges generalizing next with
  | nil => exact ⟨Nat.le_of_eq h, by simp⟩
  | cons range rest ih =>
      obtain ⟨rfl, hle, hrest⟩ := h
      obtain ⟨hend, hbounds⟩ := ih hrest
      refine ⟨by omega, ?_⟩
      intro range' hmem
      rcases List.mem_cons.mp hmem with rfl | hmem
      · omega
      · have := hbounds range' hmem
        omega

/-- The lines of a chunk, without their numbers. -/
def Chunk.lines (chunk : Chunk) : List Text := chunk.window.map (·.1)

theorem Chunk.lines_eq (chunk : Chunk) :
    chunk.lines =
      (chunk.content.lines.drop (chunk.first - 1)).take ((chunk.last + 1) - max chunk.first 1) := by
  unfold Chunk.lines Chunk.window
  rw [List.map_take, List.map_drop, List.zipIdx_map_fst]

/-- The numbered lines of the chunks of tiling ranges, put together, are those from the first one on. -/
theorem flatten_map_window_chunkOf (file : SourceFile) {next : Nat} {ranges : List Span}
    (h : Tiles next file.content.lineCount ranges) (hnext : 1 ≤ next) :
    (ranges.map fun range => (file.chunkOf range).window).flatten =
      (file.content.lines.zipIdx 1).drop (next - 1) := by
  induction ranges generalizing next with
  | nil =>
      have hend : next = file.content.lines.length + 1 := h
      rw [hend, Nat.add_sub_cancel, List.drop_of_length_le (by simp)]
      rfl
  | cons range rest ih =>
      obtain ⟨rfl, hle, hrest⟩ := h
      have htake : range.stop + 1 - max range.start 1 = range.stop - (range.start - 1) := by omega
      have hdrop : (file.content.lines.zipIdx 1).drop range.stop =
          ((file.content.lines.zipIdx 1).drop (range.start - 1)).drop (range.stop - (range.start - 1)) := by
        rw [List.drop_drop, Nat.add_sub_cancel' (by omega)]
      rw [List.map_cons, List.flatten_cons, ih hrest (Nat.le_add_left 1 _)]
      show ((file.content.lines.zipIdx 1).drop (range.start - 1)).take
          (range.stop + 1 - max range.start 1) ++ (file.content.lines.zipIdx 1).drop range.stop =
        (file.content.lines.zipIdx 1).drop (range.start - 1)
      rw [htake, hdrop, List.take_append_drop]

/-- The lines of the chunks of tiling ranges, put together, are the lines from the first one on. -/
theorem flatten_map_lines_chunkOf (file : SourceFile) {next : Nat} {ranges : List Span}
    (h : Tiles next file.content.lineCount ranges) (hnext : 1 ≤ next) :
    (ranges.map fun range => (file.chunkOf range).lines).flatten =
      file.content.lines.drop (next - 1) := by
  have hwindows := congrArg (List.map Prod.fst) (flatten_map_window_chunkOf file h hnext)
  rw [List.map_flatten, List.map_map, List.map_drop, List.zipIdx_map_fst] at hwindows
  exact hwindows

/-- The texts of the chunks of tiling ranges, joined, are all lines joined. -/
theorem joinLines_map_text_chunkOf (file : SourceFile) {ranges : List Span}
    (h : Tiles 1 file.content.lineCount ranges) :
    Text.joinLines ((ranges.map file.chunkOf).map Chunk.text) =
      Text.joinLines file.content.lines := by
  have hgroups : ∀ group ∈ ranges.map fun range => (file.chunkOf range).lines, group ≠ [] := by
    intro group hgroup
    obtain ⟨range, hrange, rfl⟩ := List.mem_map.mp hgroup
    obtain ⟨hfirst, hle, hlast⟩ := h.bounds.2 range hrange
    have hcount : file.content.lineCount = file.content.lines.length := rfl
    rw [Chunk.lines_eq]
    show (file.content.lines.drop (range.start - 1)).take (range.stop + 1 - max range.start 1) ≠ []
    apply List.ne_nil_of_length_pos
    rw [List.length_take, List.length_drop]
    omega
  have htexts : (ranges.map file.chunkOf).map Chunk.text =
      (ranges.map fun range => (file.chunkOf range).lines).map Text.joinLines := by
    rw [List.map_map, List.map_map]
    rfl
  rw [htexts, Text.joinLines_map_joinLines _ hgroups, flatten_map_lines_chunkOf file h (Nat.le_refl 1)]
  rfl

/-- The chunks hold each of `count` lines once: the first one starts at line one, none is inverted,
each starts one line behind the one before it, and the last one ends at the last line. -/
structure CoverOnce (count : Nat) (chunks : List Chunk) : Prop where
  nonempty : chunks ≠ []
  first : ∀ c, chunks.head? = some c → c.first = 1
  ordered : ∀ c ∈ chunks, c.first ≤ c.last
  adjacent : chunks.IsChain fun a b => b.first = a.last + 1
  last : ∀ c, chunks.getLast? = some c → c.last = count

theorem Tiles.isChain {next last : Nat} {ranges : List Span} (h : Tiles next last ranges) :
    ranges.IsChain fun a b => b.start = a.stop + 1 := by
  induction ranges generalizing next with
  | nil => exact .nil
  | cons range rest ih =>
      obtain ⟨_, _, hrest⟩ := h
      have hchain := ih hrest
      cases rest with
      | nil => exact .singleton range
      | cons range' rest => exact .cons_cons hrest.1 hchain

theorem Tiles.stop_of_getLast {next last : Nat} {ranges : List Span} {range : Span}
    (h : Tiles next last ranges) (hlast : ranges.getLast? = some range) : range.stop = last := by
  induction ranges generalizing next with
  | nil => cases hlast
  | cons first rest ih =>
      obtain ⟨_, _, hrest⟩ := h
      cases rest with
      | nil =>
          have hend : first.stop + 1 = last + 1 := hrest
          rw [List.getLast?_singleton, Option.some.injEq] at hlast
          rw [← hlast]
          omega
      | cons second rest =>
          rw [List.getLast?_cons_cons] at hlast
          exact ih hrest hlast

theorem coverOnce_of_tiles (file : SourceFile) {ranges : List Span} {count : Nat}
    (h : Tiles 1 count ranges) (hcount : 0 < count) :
    CoverOnce count (ranges.map file.chunkOf) := by
  refine ⟨?_, ?_, ?_, ?_, ?_⟩
  · rw [ne_eq, List.map_eq_nil_iff]
    rintro rfl
    have hend : 1 = count + 1 := h
    omega
  · intro c hc
    cases ranges with
    | nil => cases hc
    | cons range rest =>
        rw [List.map_cons, List.head?_cons, Option.some.injEq] at hc
        rw [← hc]
        exact h.1
  · intro c hc
    obtain ⟨range, hrange, rfl⟩ := List.mem_map.mp hc
    exact (h.bounds.2 range hrange).2.1
  · exact (List.isChain_map file.chunkOf).mpr h.isChain
  · intro c hc
    rw [List.getLast?_map, Option.map_eq_some_iff] at hc
    obtain ⟨range, hrange, rfl⟩ := hc
    exact h.stop_of_getLast hrange

/-- The chunks of a file that has a line hold each of its lines once, so their texts joined are the
lines joined: cut along any tree, for any budget and threshold, or in windows without overlap. -/
theorem chunks_cover_lines_once (settings : ChunkSettings) (file : SourceFile)
    (hcontent : file.content ≠ []) (hwindow : settings.windowOverlap < settings.windowLines)
    (hcut : file.CutsOnce settings) :
    ∃ chunks, file.chunks settings = .ok chunks ∧ CoverOnce file.content.lineCount chunks ∧
      Text.joinLines (chunks.map Chunk.text) = Text.joinLines file.content.lines := by
  obtain ⟨ranges, hranges, htiles⟩ := SourceFile.tiles_ranges hcontent hwindow hcut
  refine ⟨ranges.map file.chunkOf, ?_, ?_, ?_⟩
  · exact SourceFile.chunks_of_ranges hcontent hwindow hranges
  · exact coverOnce_of_tiles file htiles (Text.lineCount_pos hcontent)
  · exact joinLines_map_text_chunkOf file htiles

/-- Two blocks of lines, with blank lines behind each. -/
def SourceFile.twoBlocks : SourceFile where
  path := ['m', '.', 'p', 'y']
  language := .python
  content := ['a', 'a', '\n', 'b', 'b', '\n', '\n', 'c', 'c', '\n', 'd', '\n', '\n']
  tree := some (.node ⟨0, 12⟩ [.node ⟨0, 5⟩ [], .node ⟨7, 11⟩ []])

theorem chunks_cover_lines_of_twoBlocks :
    (SourceFile.twoBlocks.content ≠ [] ∧ 0 < 50 ∧ SourceFile.twoBlocks.CutsOnce ⟨6, 1, 50, 0⟩) ∧
      ∃ chunks, SourceFile.twoBlocks.chunks ⟨6, 1, 50, 0⟩ = .ok chunks ∧
        CoverOnce SourceFile.twoBlocks.content.lineCount chunks ∧
        Text.joinLines (chunks.map Chunk.text) =
          Text.joinLines SourceFile.twoBlocks.content.lines := by
  have hcut : SourceFile.twoBlocks.CutsOnce ⟨6, 1, 50, 0⟩ := .inl rfl
  refine ⟨⟨List.cons_ne_nil _ _, by decide, hcut⟩, ?_⟩
  exact chunks_cover_lines_once ⟨6, 1, 50, 0⟩ _ (List.cons_ne_nil _ _) (by decide) hcut

end CodeRetrieval
