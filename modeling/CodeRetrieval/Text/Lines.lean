/-
# CodeRetrieval.Text.Lines — the lines of a text.

A line ends at a line feed or at the end of the text.  A carriage return right before the line feed
belongs to the line end.  No line follows a line feed that is the last character, so the empty text
has no line.  `lines` is the one notion of line in the library: windows of a chunk, line counts and
the table of line ends all refer to it.

The table of line ends leads from byte offsets to line numbers.  It keeps the offsets of the line feeds in
ascending order and finds the line of an offset by bisection.  Beside them it keeps the line count and the
size, which answer for every offset at or past the end.
-/
import CodeRetrieval.Text.Basic

namespace CodeRetrieval

namespace Text

/-- A terminated line without the carriage return that its line end began with. -/
def dropReturn (line : Text) : Text :=
  if line.getLast? = some '\r' then line.dropLast else line

/-- The lines of a text: every piece before a line feed, and the last piece unless it is empty. -/
def lines (text : Text) : List Text :=
  let pieces := split '\n' text
  pieces.dropLast.map dropReturn ++ pieces.getLast?.toList.filter (fun tail => !tail.isEmpty)

@[simp]
theorem lines_nil : lines [] = [] := rfl

/-- The number of lines of a text. -/
def lineCount (text : Text) : Nat := text.lines.length

/-- Lines put together with line feeds. -/
def joinLines (ls : List Text) : Text := join ['\n'] ls

end Text

/-! ## Line numbers -/

/-- The offsets of a text's line feeds, its number of lines and its size in bytes. -/
structure LineTable where
  feeds : Array Nat
  count : Nat
  size : Nat

namespace LineTable

/-- The offsets of the line feeds of a text that starts at `offset`, added to those `found` before. -/
def feedsFrom (offset : Nat) (found : Array Nat) : Text → Array Nat
  | [] => found
  | c :: rest =>
    feedsFrom (offset + c.utf8Size) (if c = '\n' then found.push offset else found) rest

/-- The table of a text. -/
def ofText (text : Text) : LineTable :=
  ⟨feedsFrom 0 #[] text, text.lineCount, text.size⟩

/-- The first index from `low` up to `high` whose entry is not below `bound`. -/
def bisect (entries : Array Nat) (bound low high : Nat) : Nat :=
  if low < high then
    let middle := (low + high) / 2
    if entries.getD middle 0 < bound then bisect entries bound (middle + 1) high
    else bisect entries bound low middle
  else low
termination_by high - low

/-- The number, from zero, of the line that holds the byte at `offset`; the line count for an offset at
or past the end. -/
def lineOf (table : LineTable) (offset : Nat) : Nat :=
  if table.size ≤ offset then table.count
  else bisect table.feeds offset 0 table.feeds.size

end LineTable

end CodeRetrieval
