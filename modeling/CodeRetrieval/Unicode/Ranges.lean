/-
# CodeRetrieval.Unicode.Ranges — classes of characters as tables of code points.

A class is an ascending list of closed intervals of code points.  `covers` walks the list and stops at
the first interval that starts behind the character, so that the characters of small code point, the
ones that fill most source files, meet only the first few intervals.  The first such class are the blank
characters, the twenty-five with the property White_Space: what trimming takes away and what does not
count as content of a chunk.
-/

namespace CodeRetrieval.Unicode

/-- An ascending list of closed, disjoint intervals of code points. -/
abbrev Ranges := List (Nat × Nat)

/-- Whether a code point lies in one of the intervals. -/
def Ranges.covers : Ranges → Nat → Bool
  | [], _ => false
  | (first, last) :: rest, n =>
    if n < first then false else n ≤ last || Ranges.covers rest n

/-! ## White space -/

/-- The code points of white space. -/
def blankRanges : Ranges :=
  [(0x9, 0xD), (0x20, 0x20), (0x85, 0x85), (0xA0, 0xA0), (0x1680, 0x1680), (0x2000, 0x200A),
   (0x2028, 0x2029), (0x202F, 0x202F), (0x205F, 0x205F), (0x3000, 0x3000)]

/-- Whether a character is white space. -/
def isBlank (c : Char) : Bool := blankRanges.covers c.toNat

/-- A line feed is blank. -/
@[simp]
theorem isBlank_lineFeed : isBlank '\n' = true := by decide

end CodeRetrieval.Unicode
