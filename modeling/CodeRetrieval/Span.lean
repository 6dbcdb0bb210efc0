/-
# CodeRetrieval.Span — half-open intervals of byte offsets or line numbers.

A span may be inverted; it is then empty.  `reach` is the way spans grow: the start of the one, the
end of the other.  `Span.text` reads the bytes that a span covers; a span that does not lie in the
source, or whose ends fall inside a character, covers the empty text.
-/
import CodeRetrieval.Text.Basic

namespace CodeRetrieval

/-- The interval from `start` up to, and without, `stop`. -/
structure Span where
  start : Nat
  stop : Nat
deriving DecidableEq, Repr

namespace Span

/-- The span of no length at `offset`. -/
def emptyAt (offset : Nat) : Span := ⟨offset, offset⟩

/-- The number of places in the span; none in an inverted one. -/
def length (s : Span) : Nat := s.stop - s.start

/-- Whether the span holds no place. -/
def isEmpty (s : Span) : Bool := s.length == 0

/-- From the start of `s` to the end of `t`. -/
def reach (s t : Span) : Span := ⟨s.start, t.stop⟩

/-- Both ends moved up by `distance`. -/
def shift (s : Span) (distance : Nat) : Span := ⟨s.start + distance, s.stop + distance⟩

@[simp]
theorem length_emptyAt (offset : Nat) : (emptyAt offset).length = 0 := by simp [length, emptyAt]

@[simp]
theorem reach_start (s t : Span) : (s.reach t).start = s.start := rfl

@[simp]
theorem reach_stop (s t : Span) : (s.reach t).stop = t.stop := rfl

end Span

namespace Text

/-- Cut a text behind its first `n` bytes, given the characters already passed in reverse; nothing if
the text is shorter or the cut would fall inside a character. -/
def cutBytesAfter (passed : Text) : Nat → Text → Option (Text × Text)
  | 0, rest => some (passed.reverse, rest)
  | _, [] => none
  | n, c :: rest => if c.utf8Size ≤ n then cutBytesAfter (c :: passed) (n - c.utf8Size) rest else none

/-- Cut a text behind its first `n` bytes. -/
def cutBytes (n : Nat) (text : Text) : Option (Text × Text) := cutBytesAfter [] n text

end Text

/-- The text that a byte span covers, empty unless both ends fall between characters of the source. -/
def Span.text (s : Span) (source : Text) : Text :=
  if s.start ≤ s.stop then
    match Text.cutBytes s.start source with
    | none => []
    | some (_, rest) =>
      match Text.cutBytes (s.stop - s.start) rest with
      | none => []
      | some (covered, _) => covered
  else []

end CodeRetrieval
