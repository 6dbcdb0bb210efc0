/-
# CodeRetrieval.Toml.Text — blanks, comments, keys and strings of a TOML document.

Each reader takes a text apart at its front and returns what it read with the rest, or nothing if the
text does not fit.  Strings come in four kinds: with escapes or without, on one line or on several.
Across lines a line end counts as a line feed.
-/
import CodeRetrieval.Json.Parser

namespace CodeRetrieval.Toml

/-- A blank on a line. -/
def isSpace (c : Char) : Bool := c == ' ' || c == '\t'

/-- A text without the blanks in front. -/
def skipSpace (text : Text) : Text := text.dropWhile isSpace

/-- A character that comments and strings may hold: no control character but the tab. -/
def isPlain (c : Char) : Bool := c == '\t' || (32 ≤ c.toNat && c.toNat != 127)

/-- Skip blanks, line ends and comments; `inComment` tells whether the text goes on inside one. -/
def skipTrivia (inComment : Bool) : Text → Option Text
  | [] => some []
  | '\r' :: '\n' :: rest => skipTrivia false rest
  | '\n' :: rest => skipTrivia false rest
  | c :: rest =>
    if inComment then if isPlain c then skipTrivia true rest else none
    else if isSpace c then skipTrivia false rest
    else if c = '#' then skipTrivia true rest
    else some (c :: rest)

/-- The rest of a line that holds nothing but a comment, and its line end. -/
def endLine (text : Text) : Option Text :=
  let text := skipSpace text
  let text := match text with
    | '#' :: rest => rest.dropWhile isPlain
    | _ => text
  match text with
  | [] => some []
  | '\n' :: rest => some rest
  | '\r' :: '\n' :: rest => some rest
  | _ => none

/-! ## Strings -/

/-- The character of a one-letter escape. -/
def simpleEscape? (c : Char) : Option Char :=
  if c = 'b' then some '\x08'
  else if c = 't' then some '\t'
  else if c = 'n' then some '\n'
  else if c = 'f' then some '\x0c'
  else if c = 'r' then some '\r'
  else if c = '"' then some '"'
  else if c = '\\' then some '\\'
  else none

/-- The character of a code point, if it is one. -/
def charOf? (code : Nat) : Option Char :=
  if code < 0xD800 ∨ (0xE000 ≤ code ∧ code < 0x110000) then some (Char.ofNat code) else none

/-- The character of four hexadecimal digits. -/
def shortUnicode? (a b c d : Char) : Option Char := do charOf? (← Json.hexUnit? a b c d)

/-- The character of eight hexadecimal digits. -/
def longUnicode? (a b c d e f g h : Char) : Option Char := do
  charOf? (65536 * (← Json.hexUnit? a b c d) + (← Json.hexUnit? e f g h))

/-- The rest of a one-line string with escapes; `read` is what was read before, in reverse. -/
def basicString (read : Text) : Text → Option (Text × Text)
  | '"' :: rest => some (read.reverse, rest)
  | '\\' :: 'u' :: a :: b :: c :: d :: rest =>
    match shortUnicode? a b c d with
    | some x => basicString (x :: read) rest
    | none => none
  | '\\' :: 'U' :: a :: b :: c :: d :: e :: f :: g :: h :: rest =>
    match longUnicode? a b c d e f g h with
    | some x => basicString (x :: read) rest
    | none => none
  | '\\' :: e :: rest =>
    match simpleEscape? e with
    | some x => basicString (x :: read) rest
    | none => none
  | c :: rest => if isPlain c then basicString (c :: read) rest else none
  | [] => none

/-- The rest of a one-line string without escapes. -/
def literalString (read : Text) : Text → Option (Text × Text)
  | [] => none
  | c :: rest =>
    if c = '\x27' then some (read.reverse, rest)
    else if isPlain c then literalString (c :: read) rest
    else none

/-- A text without the line end in front. -/
def dropNewline : Text → Text
  | '\n' :: rest => rest
  | '\r' :: '\n' :: rest => rest
  | text => text

/-- Behind three closing quotes: up to two further ones belong to the string. -/
def closeLong (quote : Char) (read rest : Text) : Text × Text :=
  match rest with
  | a :: b :: rest' =>
    if a = quote then
      if b = quote then ((quote :: quote :: read).reverse, rest') else ((quote :: read).reverse, b :: rest')
    else (read.reverse, rest)
  | [a] => if a = quote then ((quote :: read).reverse, []) else (read.reverse, rest)
  | [] => (read.reverse, [])

/-- Where a string of several lines stands: in its text, behind a backslash that a line end has to
follow, or in the blanks after that line end. -/
inductive Fold where
  | none
  | awaiting
  | skipping
deriving DecidableEq

/-- The rest of a string of several lines with escapes. -/
def longBasicString (read : Text) (fold : Fold) : Text → Option (Text × Text)
  | '\n' :: rest =>
    match fold with
    | .none => longBasicString ('\n' :: read) .none rest
    | _ => longBasicString read .skipping rest
  | '\r' :: '\n' :: rest =>
    match fold with
    | .none => longBasicString ('\n' :: read) .none rest
    | _ => longBasicString read .skipping rest
  | '\\' :: 'u' :: a :: b :: c :: d :: rest =>
    match fold, shortUnicode? a b c d with
    | .awaiting, _ => none
    | _, some x => longBasicString (x :: read) .none rest
    | _, none => none
  | '\\' :: 'U' :: a :: b :: c :: d :: e :: f :: g :: h :: rest =>
    match fold, longUnicode? a b c d e f g h with
    | .awaiting, _ => none
    | _, some x => longBasicString (x :: read) .none rest
    | _, none => none
  | '\\' :: '\n' :: rest =>
    if fold = .awaiting then none else longBasicString read .skipping rest
  | '\\' :: '\r' :: '\n' :: rest =>
    if fold = .awaiting then none else longBasicString read .skipping rest
  | '\\' :: e :: rest =>
    if fold = .awaiting then none
    else if isSpace e then longBasicString read .awaiting rest
    else
      match simpleEscape? e with
      | some x => longBasicString (x :: read) .none rest
      | none => none
  | '"' :: '"' :: '"' :: rest =>
    if fold = .awaiting then none else some (closeLong '"' read rest)
  | c :: rest =>
    match fold with
    | .none => if isPlain c then longBasicString (c :: read) .none rest else none
    | .awaiting => if isSpace c then longBasicString read .awaiting rest else none
    | .skipping =>
      if isSpace c then longBasicString read .skipping rest
      else if isPlain c then longBasicString (c :: read) .none rest
      else none
  | [] => none

/-- The rest of a string of several lines without escapes. -/
def longLiteralString (read : Text) : Text → Option (Text × Text)
  | '\x27' :: '\x27' :: '\x27' :: rest => some (closeLong '\x27' read rest)
  | '\r' :: '\n' :: rest => longLiteralString ('\n' :: read) rest
  | c :: rest =>
    if c = '\n' ∨ isPlain c = true then longLiteralString (c :: read) rest else none
  | [] => none

/-- A string of any kind. -/
def readString : Text → Option (Text × Text)
  | '"' :: '"' :: '"' :: rest => longBasicString [] .none (dropNewline rest)
  | '\x27' :: '\x27' :: '\x27' :: rest => longLiteralString [] (dropNewline rest)
  | '"' :: rest => basicString [] rest
  | '\x27' :: rest => literalString [] rest
  | _ => none

/-! ## Keys -/

/-- A character of a key without quotes. -/
def isBare (c : Char) : Bool :=
  ('a' ≤ c && c ≤ 'z') || ('A' ≤ c && c ≤ 'Z') || ('0' ≤ c && c ≤ '9') || c == '_' || c == '-'

/-- One part of a key. -/
def readPart : Text → Option (Text × Text)
  | '"' :: rest => basicString [] rest
  | '\x27' :: rest => literalString [] rest
  | text =>
    let part := text.takeWhile isBare
    if part.isEmpty then none else some (part, text.dropWhile isBare)

/-- The most parts of a key and the most levels of nesting, plus one. -/
def nestingLimit : Nat := 80

/-- The parts of a key, at most so many, with blanks around each. -/
def readKey : Nat → Text → Option (List Text × Text)
  | 0, _ => none
  | more + 1, text => do
    let (part, rest) ← readPart (skipSpace text)
    match skipSpace rest with
    | '.' :: rest => do
      let (parts, rest) ← readKey more rest
      return (part :: parts, rest)
    | rest => return ([part], rest)

end CodeRetrieval.Toml
