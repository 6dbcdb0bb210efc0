/-
# CodeRetrieval.Chunking.LineRanges — from byte spans to whole lines.

A line that two spans share goes to the first of them.  Ranges that keep no line of their own, or a
single one, are dropped, and the range before them takes their lines; a short tail joins its
predecessor.  Ranges count lines from zero and include both ends; the last one may end one past the
last line.
-/
import CodeRetrieval.Chunking.Coalescing
import CodeRetrieval.Chunking.Packing
import CodeRetrieval.Text.Lines

namespace CodeRetrieval

/-- The lines of a span behind the first: from the line after the one it starts in. -/
def LineTable.following (table : LineTable) (span : Span) : Span :=
  let start := table.lineOf span.start + 1
  ⟨start, max start (table.lineOf span.stop)⟩

/-- The line ranges of consecutive byte spans. -/
def LineTable.ranges (table : LineTable) : List Span → List Span
  | [] => []
  | first :: rest => ⟨0, table.lineOf first.stop⟩ :: rest.map table.following

/-- Every range stretched to the line before the next one, and the last one at least to `last`. -/
def stretchRanges (last : Nat) : List Span → List Span
  | [] => []
  | [range] => [⟨range.start, max range.stop last⟩]
  | range :: next :: rest => ⟨range.start, next.start - 1⟩ :: stretchRanges last (next :: rest)

/-- A tail shorter than the threshold joined to the range before it. -/
def joinShortTail (threshold : Nat) : List Span → List Span
  | [] => []
  | [range] => [range]
  | [range, tail] => if tail.length < threshold then [range.reach tail] else [range, tail]
  | range :: next :: other :: rest => range :: joinShortTail threshold (next :: other :: rest)

/-- The ranges without those of at most one line, which their predecessors take over. -/
def dropDegenerate (threshold : Nat) (ranges : List Span) : List Span :=
  match ranges.getLast? with
  | none => []
  | some final =>
    match ranges.filter (fun range => !range.isEmpty) with
    | [] => [⟨0, final.stop⟩]
    | first :: rest => joinShortTail threshold (stretchRanges final.stop (⟨0, first.stop⟩ :: rest))

/-- The line ranges of a parsed source. -/
def SyntaxTree.lineRanges (tree : SyntaxTree) (source : Text) (budget threshold : Nat) : List Span :=
  let table := LineTable.ofText source
  let total := max tree.range.stop source.size
  match tree.pack budget with
  | [] => []
  | [_] => [⟨0, table.lineOf total⟩]
  | spans =>
    match coalesce threshold source (closeGaps total spans) with
    | [] => []
    | merged => dropDegenerate threshold (table.ranges merged)

end CodeRetrieval
