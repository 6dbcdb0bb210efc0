/-
# CodeRetrieval.Json.Printer — JSON values written.

`compact` writes a value without any blank.  `pretty` writes each item on a line of its own, indented
by two blanks a level, and an empty array or object as a pair of brackets.
-/
import CodeRetrieval.Json.Basic

namespace CodeRetrieval

namespace Numeral

/-- The numeral as it is written; an exponent always shows its sign. -/
def text (n : Numeral) : Text :=
  (if n.negative then ['-'] else []) ++ n.whole ++
    (if n.fraction.isEmpty then [] else '.' :: n.fraction) ++
    match n.exponent with
    | none => []
    | some (down, digits) => 'e' :: (if down then '-' else '+') :: digits

end Numeral

namespace Json

/-- A character inside a string: quotes, backslashes and control characters are escaped. -/
def escape (c : Char) : Text :=
  if c = '"' then ['\\', '"']
  else if c = '\\' then ['\\', '\\']
  else if c = '\n' then ['\\', 'n']
  else if c = '\r' then ['\\', 'r']
  else if c = '\t' then ['\\', 't']
  else if c = '\x08' then ['\\', 'b']
  else if c = '\x0c' then ['\\', 'f']
  else if c.toNat < 32 then
    ['\\', 'u', '0', '0', Nat.digitChar (c.toNat / 16), Nat.digitChar (c.toNat % 16)]
  else [c]

/-- A string with its quotes. -/
def quote (t : Text) : Text := '"' :: t.flatMap escape ++ ['"']

/-- Texts with a separator between each two. -/
def separated (separator : Text) (parts : List Text) : Text := separator.intercalate parts

mutual

/-- A value without blanks. -/
def compact : Json → Text
  | null => ['n', 'u', 'l', 'l']
  | bool b => if b then ['t', 'r', 'u', 'e'] else ['f', 'a', 'l', 's', 'e']
  | number n => n.text
  | string s => quote (s.getD [])
  | array items => '[' :: separated [','] (compactItems items) ++ [']']
  | object members => '\x7b' :: separated [','] (compactMembers members) ++ ['\x7d']

/-- The items of an array. -/
def compactItems : List Json → List Text
  | [] => []
  | item :: rest => compact item :: compactItems rest

/-- The members of an object. -/
def compactMembers : List (Option Text × Json) → List Text
  | [] => []
  | (name, value) :: rest => (quote (name.getD []) ++ ':' :: compact value) :: compactMembers rest

end

/-- A line feed and the indentation of a level. -/
def newline (level : Nat) : Text := '\n' :: List.replicate (2 * level) ' '

/-- Brackets around parts, each on its own line. -/
def block (level : Nat) (opening closing : Char) (parts : List Text) : Text :=
  if parts.isEmpty then [opening, closing]
  else opening :: newline (level + 1) ++ separated (',' :: newline (level + 1)) parts ++
    newline level ++ [closing]

mutual

/-- A value at a level of indentation. -/
def prettyAt (level : Nat) : Json → Text
  | null => ['n', 'u', 'l', 'l']
  | bool b => if b then ['t', 'r', 'u', 'e'] else ['f', 'a', 'l', 's', 'e']
  | number n => n.text
  | string s => quote (s.getD [])
  | array items => block level '[' ']' (prettyItems (level + 1) items)
  | object members => block level '\x7b' '\x7d' (prettyMembers (level + 1) members)

/-- The items of an array. -/
def prettyItems (level : Nat) : List Json → List Text
  | [] => []
  | item :: rest => prettyAt level item :: prettyItems level rest

/-- The members of an object. -/
def prettyMembers (level : Nat) : List (Option Text × Json) → List Text
  | [] => []
  | (name, value) :: rest =>
    (quote (name.getD []) ++ ':' :: ' ' :: prettyAt level value) :: prettyMembers level rest

end

/-- A value on indented lines. -/
def pretty (json : Json) : Text := json.prettyAt 0

end Json

end CodeRetrieval
