/-
# CodeRetrieval.Text.Basic — texts as lists of characters.

A text is the list of its characters, so that a law about a text is a law about a list.  Offsets into
files count the bytes of the UTF-8 form, and `size` measures a text in them.  `split` cuts a text at
every occurrence of one character; `intercalate` of the standard library puts the pieces together
again.
-/
import CodeRetrieval.Unicode.Ranges

namespace CodeRetrieval

/-- A text is the list of its characters. -/
abbrev Text := List Char

/-- Texts are hashed character by character. -/
instance : Hashable Text := @instHashableList Char instHashableChar

namespace Text

/-! ## Size in bytes -/

/-- The number of bytes of the UTF-8 form. -/
def size (text : Text) : Nat := text.foldl (fun n c => n + c.utf8Size) 0

/-- The text of a string. -/
def ofString (s : String) : Text := s.toList

/-- The text of bytes in UTF-8. -/
def decode (bytes : ByteArray) : Option Text := (String.fromUTF8? bytes).map String.toList

/-- The decimal digits of a number. -/
def ofNat (n : Nat) : Text := Nat.toDigits 10 n

/-! ## Cutting at a character -/

/-- The pieces between the occurrences of `sep`: always one more than there are occurrences. -/
def split (sep : Char) (text : Text) : List Text :=
  let cut := text.foldr
    (fun c (p : Text × List Text) => if c = sep then ([], p.1 :: p.2) else (c :: p.1, p.2)) ([], [])
  cut.1 :: cut.2

@[simp]
theorem split_nil (sep : Char) : split sep [] = [[]] := rfl

@[simp]
theorem split_cons_self (sep : Char) (text : Text) :
    split sep (sep :: text) = [] :: split sep text := by
  simp [split]

theorem split_ne_nil (sep : Char) (text : Text) : split sep text ≠ [] := by
  simp [split]

/-- Put the pieces together, `sep` between each two. -/
def join (sep : Text) (pieces : List Text) : Text := sep.intercalate pieces

/-! ## Blank ends -/

/-- Without the blank characters at the start. -/
def trimStart (text : Text) : Text := text.dropWhile Unicode.isBlank

/-- Without the blank characters at the end. -/
def trimEnd (text : Text) : Text := (text.reverse.dropWhile Unicode.isBlank).reverse

/-- Whether a text holds nothing but blank characters. -/
def isBlank (text : Text) : Bool := text.all Unicode.isBlank

/-- The number of characters that are not blank. -/
def nonBlankCount (text : Text) : Nat := text.countP (fun c => !Unicode.isBlank c)

end Text

end CodeRetrieval
