/-
# CodeRetrieval.Proofs.FirstLines — the first line of a merged span goes to the range before it.

A merged span behind the first one is given the lines from the one after the line it starts in, even if
it starts with the first byte of that line.  So the line that a definition begins with ends the range
before, and the lines of its body begin a range of their own.  The two stay together in one case only:
the range of the body is the last that is kept, and so short a tail that it joins the range before it.
Whether ranges that tile hold a line together with the next one depends on where they start, so this is
read off the starts that dropping, stretching and joining leave.
-/
import CodeRetrieval.Proofs.LineCoverage
import CodeRetrieval.Proofs.MergedSpans
import CodeRetrieval.Proofs.SyntaxTree

namespace CodeRetrieval

/-! ## Lines kept together -/

/-- One range holds the line and the one behind it. -/
def KeptTogether (ranges : List Span) (line : Nat) : Prop :=
  ∃ range ∈ ranges, range.start ≤ line ∧ line + 1 ≤ range.stop

/-- Ranges that tile hold a line and the next one together unless a range starts with the next one. -/
theorem Tiles.keptTogether_iff {next last line : Nat} {ranges : List Span}
    (h : Tiles next last ranges) (hnext : next ≤ line) (hlast : line + 1 ≤ last) :
    KeptTogether ranges line ↔ line + 1 ∉ ranges.map Span.start := by
  induction ranges generalizing next with
  | nil =>
      have hend : next = last + 1 := h
      omega
  | cons range rest ih =>
      obtain ⟨rfl, hle, hrest⟩ := h
      have hbehind := hrest.bounds.2
      have hstart : range.start ≠ line + 1 := by omega
      rcases Nat.lt_trichotomy line range.stop with hlt | heq | hgt
      · -- the range holds both lines, and all others start behind them
        constructor
        · intro _ hmem
          rw [List.map_cons, List.mem_cons, List.mem_map] at hmem
          rcases hmem with hmem | ⟨other, hother, hmem⟩
          · exact hstart hmem.symm
          · have := (hbehind other hother).1
            omega
        · intro _
          exact ⟨range, List.mem_cons_self, hnext, hlt⟩
      · -- the range ends with the line, so the next one starts behind it
        cases rest with
        | nil =>
            have hend : range.stop + 1 = last + 1 := hrest
            omega
        | cons other rest =>
            have hother : other.start = range.stop + 1 := hrest.1
            constructor
            · rintro ⟨holder, hholder, hlow, hhigh⟩
              rcases List.mem_cons.mp hholder with rfl | hholder
              · omega
              · have := (hbehind holder hholder).1
                omega
            · intro hnot
              refine absurd ?_ hnot
              rw [heq, ← hother]
              simp
      · have hsame : KeptTogether (range :: rest) line ↔ KeptTogether rest line := by
          constructor
          · rintro ⟨holder, hholder, hlow, hhigh⟩
            rcases List.mem_cons.mp hholder with rfl | hholder
            · omega
            · exact ⟨holder, hholder, hlow, hhigh⟩
          · rintro ⟨holder, hholder, hboth⟩
            exact ⟨holder, List.mem_cons_of_mem _ hholder, hboth⟩
        rw [hsame, ih hrest hgt, List.map_cons, List.mem_cons, not_or]
        constructor
        · exact fun hnot => ⟨hstart.symm, hnot⟩
        · exact fun hnot => hnot.2

/-- In ranges that tile, a range behind the first one has one before it that ends a line ahead. -/
theorem Tiles.exists_before {next last : Nat} {ranges : List Span} {range : Span}
    (h : Tiles next last ranges) (hrange : range ∈ ranges) (hne : range.start ≠ next) :
    ∃ before, [before, range] <:+: ranges ∧ before.stop + 1 = range.start := by
  induction ranges generalizing next with
  | nil => cases hrange
  | cons first rest ih =>
      obtain ⟨rfl, _, hrest⟩ := h
      rcases List.mem_cons.mp hrange with rfl | hrange
      · exact absurd rfl hne
      · by_cases hstart : range.start = first.stop + 1
        · cases rest with
          | nil => cases hrange
          | cons second rest =>
              -- only the range right behind the first one starts there
              obtain ⟨hsecond, hle, hbehind⟩ := hrest
              obtain rfl : range = second := by
                rcases List.mem_cons.mp hrange with heq | hrange
                · exact heq
                · have := (hbehind.bounds.2 range hrange).1
                  omega
              exact ⟨first, ⟨[], rest, rfl⟩, hstart.symm⟩
        · obtain ⟨before, hinfix, hstop⟩ := ih hrest hrange hstart
          exact ⟨before, hinfix.trans (List.suffix_cons first rest).isInfix, hstop⟩

/-! ## Starts that cleaning up leaves -/

theorem map_start_joinShortTail (threshold : Nat) {ranges : List Span} (h : ranges ≠ [])
    (tail : Span) :
    (joinShortTail threshold (ranges ++ [tail])).map Span.start =
      if tail.length < threshold then ranges.map Span.start
      else ranges.map Span.start ++ [tail.start] := by
  induction ranges with
  | nil => exact absurd rfl h
  | cons range rest ih =>
      cases rest with
      | nil =>
          rw [List.singleton_append, joinShortTail]
          split <;> rfl
      | cons next rest =>
          obtain ⟨other, more, hmore⟩ := List.exists_cons_of_ne_nil (show rest ++ [tail] ≠ [] by simp)
          have hjoin : joinShortTail threshold (range :: next :: rest ++ [tail]) =
              range :: joinShortTail threshold (next :: rest ++ [tail]) := by
            rw [List.cons_append, List.cons_append, hmore, joinShortTail]
          rw [hjoin, List.map_cons, ih (List.cons_ne_nil next rest)]
          split <;> rfl

theorem stretchRanges_concat (last : Nat) (ranges : List Span) (tail : Span) :
    ∃ stretched, stretchRanges last (ranges ++ [tail]) =
      stretched ++ [⟨tail.start, max tail.stop last⟩] ∧
        stretched.map Span.start = ranges.map Span.start := by
  induction ranges with
  | nil => exact ⟨[], rfl, rfl⟩
  | cons range rest ih =>
      obtain ⟨stretched, hstretched, hstarts⟩ := ih
      obtain ⟨next, more, hmore⟩ := List.exists_cons_of_ne_nil (show rest ++ [tail] ≠ [] by simp)
      refine ⟨⟨range.start, next.start - 1⟩ :: stretched, ?_, ?_⟩
      · rw [List.cons_append, hmore, stretchRanges, ← hmore, hstretched]
        rfl
      · rw [List.map_cons, List.map_cons, hstarts]

/-- Of the ranges that are kept, at least two of them and the first one from line zero, all starts
survive but that of a short tail. -/
theorem map_start_dropDegenerate (threshold : Nat) {ranges kept : List Span} {first final tail : Span}
    (hfinal : ranges.getLast? = some final)
    (hkept : (ranges.filter fun range => !range.isEmpty) = first :: kept ++ [tail])
    (hfirst : first.start = 0) :
    (dropDegenerate threshold ranges).map Span.start =
      if max tail.stop final.stop - tail.start < threshold then (first :: kept).map Span.start
      else (first :: kept).map Span.start ++ [tail.start] := by
  have hzero : (⟨0, first.stop⟩ : Span) = first := by rw [← hfirst]
  unfold dropDegenerate
  rw [hfinal, hkept]
  simp only [List.cons_append, hzero]
  obtain ⟨stretched, hstretched, hstarts⟩ := stretchRanges_concat final.stop (first :: kept) tail
  have hne : stretched ≠ [] := by
    rintro rfl
    cases hstarts
  rw [← List.cons_append, hstretched, map_start_joinShortTail threshold hne, hstarts]
  rfl

/-! ## Ranges of merged spans -/

namespace LineTable

variable {source : Text} {front behind : List Span} {first s : Span}

/-- The ranges of spans behind the first one that are kept. -/
def kept (table : LineTable) (spans : List Span) : List Span :=
  (spans.map table.following).filter fun range => !range.isEmpty

/-- A span keeps no range if it ends in the line after the one it starts in, or before. -/
theorem isEmpty_following_iff {table : LineTable} {s : Span} :
    (table.following s).isEmpty = true ↔ table.lineOf s.stop ≤ table.lineOf s.start + 1 := by
  rw [Span.isEmpty_iff]
  show max (table.lineOf s.start + 1) (table.lineOf s.stop) ≤ table.lineOf s.start + 1 ↔ _
  omega

theorem kept_eq_nil_iff {table : LineTable} {spans : List Span} :
    table.kept spans = [] ↔
      ∀ t ∈ spans, table.lineOf t.stop ≤ table.lineOf t.start + 1 := by
  unfold kept
  rw [List.filter_eq_nil_iff, List.forall_mem_map]
  simp only [Bool.not_eq_true', Bool.not_eq_false, isEmpty_following_iff]

/-- A text with a line feed in front of an offset has a line before the one the offset is in. -/
theorem lineOf_pos_of_lineFeed (h : '\n' ∈ s.text source) : 0 < (ofText source).lineOf s.stop := by
  have hne : s.text source ≠ [] := List.ne_nil_of_mem h
  obtain ⟨before, rest, hsource, _, hstop⟩ := Span.source_of_text_ne_nil hne
  generalize s.text source = covered at h hne hsource hstop
  subst hsource
  rw [← hstop]
  cases rest with
  | nil =>
      rw [List.append_nil, lineOf_of_size_le (Nat.le_refl _)]
      apply Text.lineCount_pos
      exact List.append_ne_nil_of_right_ne_nil before hne
  | cons c rest =>
      have hpos := c.utf8Size_pos
      rw [lineOf_char (Nat.le_refl _) (by omega)]
      exact List.count_pos_iff.mpr (List.mem_append_right before h)

/-- The last range of contiguous spans that end with the text ends at the line count. -/
theorem stop_of_getLast_ranges {spans : List Span} {final : Span}
    (h : Contiguous 0 source.size spans)
    (hfinal : ((ofText source).ranges spans).getLast? = some final) :
    final.stop = source.lineCount := by
  apply Nat.le_antisymm
  · rcases List.eq_nil_or_concat spans with rfl | ⟨spans, last, rfl⟩
    · simp [ranges] at hfinal
    · rw [List.concat_eq_append] at h hfinal
      obtain ⟨middle, _, _, hlt, hlast⟩ := contiguous_append.mp h
      have hlast' : last.stop = source.size := hlast
      have hbelow : (ofText source).lineOf last.start < source.lineCount :=
        lineOf_lt_lineCount (by omega)
      have hle := lineOf_le_lineCount source last.stop
      exact Nat.le_trans (bounds_of_getLast_ranges hfinal).2 (Nat.max_le.mpr ⟨hbelow, hle⟩)
  · exact lineCount_le_of_getLast h (Nat.le_refl _) hfinal

theorem exists_getLast_ranges (table : LineTable) (first : Span) (rest : List Span) :
    ∃ final, (table.ranges (first :: rest)).getLast? = some final :=
  ⟨_, List.getLast?_eq_some_getLast (List.cons_ne_nil _ _)⟩

/-- Kept are the range of a first span that ends behind line zero and that of any span that goes on
behind the line after the one it starts in. -/
theorem filter_ranges_eq {table : LineTable} (front behind : List Span)
    (hfirst : 0 < table.lineOf first.stop)
    (hlong : table.lineOf s.start + 1 < table.lineOf s.stop) :
    (table.ranges (first :: (front ++ s :: behind))).filter (fun range => !range.isEmpty) =
      ⟨0, table.lineOf first.stop⟩ :: table.kept front ++
        table.following s :: table.kept behind := by
  have hfirst : (⟨0, table.lineOf first.stop⟩ : Span).isEmpty = false := by
    rw [Bool.eq_false_iff, ne_eq, Span.isEmpty_iff]
    exact Nat.not_le_of_lt hfirst
  have hs : (table.following s).isEmpty = false := by
    rw [Bool.eq_false_iff, ne_eq, isEmpty_following_iff]
    omega
  rw [ranges, List.map_append, List.map_cons, List.filter_cons_of_pos (by simp [hfirst]),
    List.filter_append, List.filter_cons_of_pos (by simp [hs])]
  rfl

/-- The range of the span is the last that is kept, and it is shorter than the threshold. -/
def IsShortTail (table : LineTable) (threshold : Nat) (s : Span) (behind : List Span) : Prop :=
  (∀ t ∈ behind, table.lineOf t.stop ≤ table.lineOf t.start + 1) ∧
    table.count < table.lineOf s.start + 1 + threshold

section Starts

variable (threshold : Nat) (hfirst : 0 < (ofText source).lineOf first.stop)
  (hlong : (ofText source).lineOf s.start + 1 < (ofText source).lineOf s.stop)

include hfirst hlong

/-- With nothing kept behind it, the start of a span's range survives if enough lines follow. -/
theorem mem_starts_of_kept_eq_nil
    (h : Contiguous 0 source.size (first :: (front ++ s :: behind)))
    (hnil : (ofText source).kept behind = []) :
    (ofText source).lineOf s.start + 1 ∈
        (dropDegenerate threshold ((ofText source).ranges (first :: (front ++ s :: behind)))).map
          Span.start ↔
      ¬ source.lineCount < (ofText source).lineOf s.start + 1 + threshold := by
  have hkept := filter_ranges_eq front behind hfirst hlong
  have hseparated := separated_ranges source h
  obtain ⟨final, hfinal⟩ := exists_getLast_ranges (ofText source) first (front ++ s :: behind)
  rw [hkept, hnil] at hseparated
  rw [hnil] at hkept
  -- the ranges kept before start on earlier lines
  have hearlier : (ofText source).lineOf s.start + 1 ∉
      ((⟨0, (ofText source).lineOf first.stop⟩ : Span) :: (ofText source).kept front).map
        Span.start := by
    intro hmem
    obtain ⟨range, hrange, hstart⟩ := List.mem_map.mp hmem
    have hahead : range.stop < (ofText source).lineOf s.start + 1 :=
      (List.pairwise_append.mp hseparated.ahead).2.2 range hrange _ List.mem_cons_self
    have hseveral := hseparated.several range (List.mem_append_left _ hrange)
    omega
  have hle := lineOf_le_lineCount source s.stop
  have hstop : max ((ofText source).following s).stop source.lineCount = source.lineCount :=
    Nat.max_eq_right (Nat.max_le.mpr ⟨by omega, hle⟩)
  have hlength : ((ofText source).following s).start = (ofText source).lineOf s.start + 1 := rfl
  rw [map_start_dropDegenerate threshold hfinal hkept rfl, stop_of_getLast_ranges h hfinal, hstop,
    hlength]
  split
  · rename_i hshort
    constructor
    · exact fun hmem => absurd hmem hearlier
    · intro hnot
      omega
  · rename_i hlarge
    constructor
    · intro _ hshort
      omega
    · intro _
      exact List.mem_append_right _ (List.mem_singleton_self _)

/-- With a range kept behind it, the start of a span's range survives. -/
theorem mem_starts_of_kept_ne_nil (front : List Span) (hne : (ofText source).kept behind ≠ []) :
    (ofText source).lineOf s.start + 1 ∈
      (dropDegenerate threshold ((ofText source).ranges (first :: (front ++ s :: behind)))).map
        Span.start := by
  have hkept := filter_ranges_eq front behind hfirst hlong
  obtain ⟨final, hfinal⟩ := exists_getLast_ranges (ofText source) first (front ++ s :: behind)
  obtain ⟨more, tail, hmore⟩ := (List.eq_nil_or_concat _).resolve_left hne
  have hsplit : (⟨0, (ofText source).lineOf first.stop⟩ : Span) :: (ofText source).kept front ++
      (ofText source).following s :: (ofText source).kept behind =
        ⟨0, (ofText source).lineOf first.stop⟩ ::
          ((ofText source).kept front ++ (ofText source).following s :: more) ++ [tail] := by
    rw [hmore]
    simp
  rw [hsplit] at hkept
  rw [map_start_dropDegenerate threshold hfinal hkept rfl]
  have hstart : (ofText source).lineOf s.start + 1 ∈
      ((⟨0, (ofText source).lineOf first.stop⟩ : Span) ::
        ((ofText source).kept front ++ (ofText source).following s :: more)).map Span.start :=
    List.mem_map.mpr ⟨(ofText source).following s, by simp, rfl⟩
  split
  · exact hstart
  · exact List.mem_append_left _ hstart

/-- A range starts with the line after the one its span starts in unless it is a short tail. -/
theorem mem_starts_dropDegenerate_iff
    (h : Contiguous 0 source.size (first :: (front ++ s :: behind))) :
    (ofText source).lineOf s.start + 1 ∈
        (dropDegenerate threshold ((ofText source).ranges (first :: (front ++ s :: behind)))).map
          Span.start ↔
      ¬ (ofText source).IsShortTail threshold s behind := by
  unfold IsShortTail
  rw [← kept_eq_nil_iff]
  by_cases hnil : (ofText source).kept behind = []
  · rw [mem_starts_of_kept_eq_nil threshold hfirst hlong h hnil]
    constructor
    · exact fun hlines hboth => hlines hboth.2
    · exact fun hnot hlines => hnot ⟨hnil, hlines⟩
  · have hmem := mem_starts_of_kept_ne_nil threshold hfirst hlong front hnil
    constructor
    · exact fun _ hboth => hnil hboth.1
    · exact fun _ => hmem

end Starts

end LineTable

/-! ## First lines -/

namespace SyntaxTree

variable {tree : SyntaxTree} {source : Text} {budget threshold : Nat}

/-- Several packed spans are merged, and the ranges of the merged ones cleaned up. -/
theorem lineRanges_eq (hseveral : 1 < (tree.pack budget).length)
    (hne : tree.merged source budget threshold ≠ []) :
    tree.lineRanges source budget threshold =
      dropDegenerate threshold
        ((LineTable.ofText source).ranges (tree.merged source budget threshold)) := by
  unfold lineRanges
  simp only
  split
  · rename_i hpack
    rw [hpack] at hseveral
    exact absurd hseveral (Nat.not_lt_zero 1)
  · rename_i hpack
    rw [hpack] at hseveral
    exact absurd hseveral (Nat.lt_irrefl 1)
  · split
    · rename_i hnil
      exact absurd hnil hne
    · rfl

/-- All merged spans but the last hold a line feed. -/
theorem lineFeed_mem_of_mem_merged {s : Span}
    (hs : s ∈ (tree.merged source budget threshold).dropLast) : '\n' ∈ s.text source := by
  have hsettled := Coalescing.settled_foldl (Coalescing.sound_initial source)
    (Coalescing.settled_initial source threshold)
    (closeGaps (max tree.range.stop source.size) (tree.pack budget))
  exact (isSubstantial_iff.mp (hsettled.substantial_of_mem_dropLast hs)).2

end SyntaxTree

/-- Take a merged span, not the first one, that goes on behind the line after the one it starts in.  The
line it starts in is kept with the next one only if the range of the span is a short tail.  Otherwise it
ends the range before, and the next one begins a range. -/
theorem firstLine_stays_iff_shortTail {tree : SyntaxTree} {source : Text} (budget threshold : Nat)
    (hinside : tree.range.stop ≤ source.size) (hseveral : 1 < (tree.pack budget).length)
    {front behind : List Span} {s : Span}
    (hmerged : tree.merged source budget threshold = front ++ s :: behind) (hfront : front ≠ [])
    (hlong : (LineTable.ofText source).lineOf s.start + 1 <
      (LineTable.ofText source).lineOf s.stop) :
    (KeptTogether (tree.lineRanges source budget threshold)
        ((LineTable.ofText source).lineOf s.start) ↔
      (LineTable.ofText source).IsShortTail threshold s behind) ∧
    (¬ (LineTable.ofText source).IsShortTail threshold s behind →
      ∃ a b, [a, b] <:+: tree.lineRanges source budget threshold ∧
        a.stop = (LineTable.ofText source).lineOf s.start ∧
        b.start = (LineTable.ofText source).lineOf s.start + 1) := by
  obtain ⟨first, front, rfl⟩ := List.exists_cons_of_ne_nil hfront
  have hne : tree.merged source budget threshold ≠ [] := by
    rw [hmerged]
    exact List.cons_ne_nil _ _
  have hcontiguous := SyntaxTree.contiguous_merged tree source budget threshold
  rw [Nat.max_eq_right hinside] at hcontiguous
  have hfeed : '\n' ∈ first.text source := by
    have hmem : first ∈ (tree.merged source budget threshold).dropLast := by
      rw [hmerged, List.cons_append,
        List.dropLast_cons_of_ne_nil (List.append_ne_nil_of_right_ne_nil _ (List.cons_ne_nil _ _))]
      exact List.mem_cons_self
    exact SyntaxTree.lineFeed_mem_of_mem_merged hmem
  rw [hmerged, List.cons_append] at hcontiguous
  have hstarts := LineTable.mem_starts_dropDegenerate_iff threshold
    (LineTable.lineOf_pos_of_lineFeed hfeed) hlong hcontiguous
  rw [← List.cons_append, ← hmerged, ← SyntaxTree.lineRanges_eq hseveral hne] at hstarts
  have hsource : source ≠ [] := by
    rintro rfl
    have := LineTable.lineOf_le_lineCount [] s.stop
    have hzero : Text.lineCount [] = 0 := rfl
    omega
  obtain ⟨last, hlast, htiles, _⟩ := tiles_lineRanges tree budget threshold hsource
  have hline : (LineTable.ofText source).lineOf s.start + 1 ≤ last := by
    have := LineTable.lineOf_le_lineCount source s.stop
    omega
  refine ⟨?_, ?_⟩
  · rw [htiles.keptTogether_iff (Nat.zero_le _) hline, hstarts, not_not]
  · intro hnot
    obtain ⟨b, hb, hstart⟩ := List.mem_map.mp (hstarts.mpr hnot)
    obtain ⟨a, hinfix, hstop⟩ := htiles.exists_before hb (by omega)
    exact ⟨a, b, hinfix, by omega, hstart⟩

/-- Nine functions of three lines and 34 bytes each, one to three line feeds behind them. -/
def Text.nineFunctions : Text :=
  (List.range 9).flatMap fun n =>
    Text.ofString "fn part_" ++ Text.ofNat n ++ Text.ofString "(x: u32) -> u32 \x7b\n    x\n\x7d" ++
      List.replicate (n % 3 + 1) '\n'

/-- The nine functions under one root. -/
def SyntaxTree.nineFunctions : SyntaxTree :=
  .node ⟨0, 324⟩ ([0, 35, 71, 108, 143, 179, 216, 251, 287].map fun start =>
    .node ⟨start, start + 34⟩ [])

theorem SyntaxTree.wellFormed_nineFunctions : nineFunctions.WellFormed := by
  refine .node (by decide) (by decide) (by decide) ?_
  rw [List.forall_mem_map]
  intro start _
  exact .leaf (Nat.le_add_right start 34)

/-- Four functions and the gaps between them fit a budget of 150 bytes. -/
theorem SyntaxTree.merged_nineFunctions :
    nineFunctions.merged Text.nineFunctions 150 1 = [⟨0, 143⟩, ⟨143, 287⟩, ⟨287, 324⟩] := by
  decide +kernel

theorem firstLine_of_nineFunctions :
    (SyntaxTree.nineFunctions.range.stop ≤ Text.nineFunctions.size ∧
        1 < (SyntaxTree.nineFunctions.pack 150).length ∧
        SyntaxTree.nineFunctions.merged Text.nineFunctions 150 1 =
          [⟨0, 143⟩] ++ ⟨143, 287⟩ :: [⟨287, 324⟩] ∧
        (LineTable.ofText Text.nineFunctions).lineOf 143 + 1 <
          (LineTable.ofText Text.nineFunctions).lineOf 287) ∧
      (KeptTogether (SyntaxTree.nineFunctions.lineRanges Text.nineFunctions 150 1)
          ((LineTable.ofText Text.nineFunctions).lineOf 143) ↔
        (LineTable.ofText Text.nineFunctions).IsShortTail 1 ⟨143, 287⟩ [⟨287, 324⟩]) ∧
      (¬ (LineTable.ofText Text.nineFunctions).IsShortTail 1 ⟨143, 287⟩ [⟨287, 324⟩] →
        ∃ a b, [a, b] <:+: SyntaxTree.nineFunctions.lineRanges Text.nineFunctions 150 1 ∧
          a.stop = (LineTable.ofText Text.nineFunctions).lineOf 143 ∧
          b.start = (LineTable.ofText Text.nineFunctions).lineOf 143 + 1) := by
  have hinside : SyntaxTree.nineFunctions.range.stop ≤ Text.nineFunctions.size := by decide +kernel
  have hseveral : 1 < (SyntaxTree.nineFunctions.pack 150).length := by decide +kernel
  have hlong : (LineTable.ofText Text.nineFunctions).lineOf 143 + 1 <
      (LineTable.ofText Text.nineFunctions).lineOf 287 := by decide +kernel
  have hmerged : SyntaxTree.nineFunctions.merged Text.nineFunctions 150 1 =
      [⟨0, 143⟩] ++ ⟨143, 287⟩ :: [⟨287, 324⟩] := SyntaxTree.merged_nineFunctions
  have hstays := firstLine_stays_iff_shortTail 150 1 hinside hseveral hmerged
    (List.cons_ne_nil _ _) hlong
  exact ⟨⟨hinside, hseveral, hmerged, hlong⟩, hstays⟩

/-- Right before the offset a line of the source ends. -/
def Text.StartsLine (source : Text) (offset : Nat) : Prop :=
  ∃ before behind, source = before ++ '\n' :: behind ∧ Text.size before + 1 = offset

/-- The fifth function starts a line and a merged span, which ends more than three lines down, but its
first line and the next one lie in different ranges. -/
theorem firstLine_parts_from_body :
    SyntaxTree.nineFunctions.WellFormed ∧
      SyntaxTree.nineFunctions.range.stop ≤ Text.nineFunctions.size ∧
      1 < (SyntaxTree.nineFunctions.pack 150).length ∧
      ⟨143, 287⟩ ∈ (SyntaxTree.nineFunctions.merged Text.nineFunctions 150 1).tail ∧
      Text.nineFunctions.StartsLine 143 ∧
      (LineTable.ofText Text.nineFunctions).lineOf 143 + 3 ≤
        (LineTable.ofText Text.nineFunctions).lineOf 287 ∧
      ¬ KeptTogether (SyntaxTree.nineFunctions.lineRanges Text.nineFunctions 150 1)
        ((LineTable.ofText Text.nineFunctions).lineOf 143) := by
  refine ⟨SyntaxTree.wellFormed_nineFunctions, by decide +kernel, by decide +kernel, ?_, ?_,
    by decide +kernel, ?_⟩
  · rw [SyntaxTree.merged_nineFunctions]
    exact List.mem_cons_self
  · refine ⟨Span.text ⟨0, 142⟩ Text.nineFunctions, Span.text ⟨143, 324⟩ Text.nineFunctions, ?_, ?_⟩
    · decide +kernel
    · decide +kernel
  · have hranges : SyntaxTree.nineFunctions.lineRanges Text.nineFunctions 150 1 =
        [⟨0, 15⟩, ⟨16, 31⟩, ⟨32, 36⟩] := by decide +kernel
    have hline : (LineTable.ofText Text.nineFunctions).lineOf 143 = 15 := by decide +kernel
    unfold KeptTogether
    rw [hranges, hline]
    decide

end CodeRetrieval
