/-
# CodeRetrieval.Chunking.Windows — line windows of a fixed length.

Windows start a step apart, the step being the length less the overlap, and are cut off at the end of
the file.  The overlap has to be smaller than the length.

Where a window ends is a sum of two machine words, and behind the largest word comes zero again.  A length
near the largest word can carry the sum over it, and then the window ends before it begins.  A chunk of such
a window is empty, but the lines of the file cannot be cut there, so no list of texts is made.
-/
import CodeRetrieval.Basic
import CodeRetrieval.Failure
import CodeRetrieval.Span
import CodeRetrieval.Text.Lines

namespace CodeRetrieval

/-! ## Machine words -/

/-- The sum of two numbers on a machine of so many words. -/
def addWords (words a b : Nat) : Nat := (a + b) % words

/-- The words of a machine that holds a file and a length.  A file fills half of the words at most, so
these are the words of 64 bits for every file and length that fit into them; no other machine is
needed, and larger files and lengths are thought of as on a wider one. -/
def wordsFor (lines length : Nat) : Nat := max (twoTo 64) (max (2 * lines) (length + 1))

/-! ## Windows -/

/-- Refuse windows that do not advance. -/
def checkWindow (length overlap : Nat) : Except Failure Unit :=
  if length ≤ overlap then .error (.config (.windowOverlap overlap length)) else .ok ()

/-- The windows from line `start` on, lines counted from zero: `todo` lines are left. -/
def windowsFrom (words length overlap start : Nat) (todo : Nat) : List Span :=
  if todo = 0 ∨ length ≤ overlap then []
  else
    ⟨start + 1, min (addWords words start length) (start + todo)⟩ ::
      windowsFrom words length overlap (start + (length - overlap)) (todo - (length - overlap))
termination_by todo
decreasing_by omega

/-- The windows of a file of `total` lines, as first and last line counted from one. -/
def lineWindows (words total length overlap : Nat) : Except Failure (List Span) := do
  checkWindow length overlap
  return windowsFrom words length overlap 0 total

/-! ## Texts of windows -/

/-- The lines of a range, counted from one and both ends included. -/
def linesOfRange (lines : List Text) (range : Span) : List Text :=
  (lines.drop (range.start - 1)).take (range.stop - (range.start - 1))

/-- Whether a range can be cut out of so many lines: it ends neither before it begins nor behind the last
line. -/
def isSlice (count : Nat) (range : Span) : Bool := range.start - 1 ≤ range.stop && range.stop ≤ count

/-- The texts of a text's line windows; nothing if one of the windows cannot be cut out. -/
def windowTexts (text : Text) (length overlap : Nat) : Except Failure (Option (List Text)) := do
  let lines := text.lines
  let ranges ← lineWindows (wordsFor lines.length length) lines.length length overlap
  return if ranges.all (isSlice lines.length) then
    some (ranges.map fun range => Text.joinLines (linesOfRange lines range)) else none

end CodeRetrieval
