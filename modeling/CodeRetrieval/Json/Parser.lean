/-
# CodeRetrieval.Json.Parser — JSON values read.

The reader goes from left to right and returns a value with the text behind it.  It is driven by a
bound on the number of steps, twice the length of the text, which no text can use up: every second
step takes a character.  The items of an array and the members of an object are collected in reverse.
-/
import CodeRetrieval.Json.Basic

namespace CodeRetrieval.Json

/-- The blanks between the parts of a value. -/
def isSpace (c : Char) : Bool := c == ' ' || c == '\n' || c == '\t' || c == '\r'

/-- A text without the blanks in front. -/
def skipSpace (text : Text) : Text := text.dropWhile isSpace

/-- A decimal digit. -/
def isDigit (c : Char) : Bool := '0' ≤ c && c ≤ '9'

/-- The value of a hexadecimal digit. -/
def hexValue? (c : Char) : Option Nat :=
  if isDigit c then some (c.toNat - 48)
  else if 'a' ≤ c && c ≤ 'f' then some (c.toNat - 87)
  else if 'A' ≤ c && c ≤ 'F' then some (c.toNat - 55)
  else none

/-- The value of four hexadecimal digits. -/
def hexUnit? (a b c d : Char) : Option Nat := do
  let a ← hexValue? a
  let b ← hexValue? b
  let c ← hexValue? c
  let d ← hexValue? d
  return ((16 * a + b) * 16 + c) * 16 + d

/-- The character of a one-letter escape. -/
def simpleEscape? (c : Char) : Option Char :=
  if c = '"' then some '"'
  else if c = '\\' then some '\\'
  else if c = '/' then some '/'
  else if c = 'b' then some '\x08'
  else if c = 'f' then some '\x0c'
  else if c = 'n' then some '\n'
  else if c = 'r' then some '\r'
  else if c = 't' then some '\t'
  else none

/-- A string being read: its characters so far in reverse, whether every escape named a character, and
the first half of a pair of escapes. -/
structure OpenString where
  read : Text
  sound : Bool
  lead : Option Nat

/-- One more character that stands for itself. -/
def OpenString.push (state : OpenString) (c : Char) : OpenString :=
  ⟨c :: state.read, state.sound && state.lead.isNone, none⟩

/-- One more code unit written as an escape. -/
def OpenString.pushUnit (state : OpenString) (unit : Nat) : OpenString :=
  match state.lead with
  | some high =>
    if 0xDC00 ≤ unit && unit < 0xE000 then
      ⟨Char.ofNat (0x10000 + (high - 0xD800) * 0x400 + (unit - 0xDC00)) :: state.read, state.sound, none⟩
    else ⟨state.read, false, none⟩
  | none =>
    if 0xD800 ≤ unit && unit < 0xDC00 then { state with lead := some unit }
    else if 0xDC00 ≤ unit && unit < 0xE000 then { state with sound := false }
    else state.push (Char.ofNat unit)

/-- The string, if every escape named a character. -/
def OpenString.text? (state : OpenString) : Option Text :=
  if state.sound && state.lead.isNone then some state.read.reverse else none

/-- The rest of a string, behind its opening quote. -/
def readString (state : OpenString) : Text → Option (Option Text × Text)
  | '\\' :: 'u' :: a :: b :: c :: d :: rest =>
    match hexUnit? a b c d with
    | none => none
    | some unit => readString (state.pushUnit unit) rest
  | '\\' :: e :: rest =>
    match simpleEscape? e with
    | none => none
    | some c => readString (state.push c) rest
  | '"' :: rest => some (state.text?, rest)
  | c :: rest => if c.toNat < 32 then none else readString (state.push c) rest
  | [] => none

/-- A string behind its opening quote. -/
def readText (text : Text) : Option (Option Text × Text) := readString ⟨[], true, none⟩ text

/-- The digits in front and the text behind them. -/
def readDigits (text : Text) : Text × Text := (text.takeWhile isDigit, text.dropWhile isDigit)

/-- The exponent of a number, if there is one. -/
def readExponent (text : Text) : Option (Option (Bool × Text) × Text) :=
  match text with
  | e :: rest =>
    if e = 'e' || e = 'E' then
      let (down, rest) := match rest with
        | '-' :: r => (true, r)
        | '+' :: r => (false, r)
        | r => (false, r)
      let (digits, rest) := readDigits rest
      if digits.isEmpty then none else some (some (down, digits), rest)
    else some (none, text)
  | [] => some (none, text)

/-- The fraction of a number, if there is one. -/
def readFraction (text : Text) : Option (Text × Text) :=
  match text with
  | '.' :: rest =>
    let (digits, rest) := readDigits rest
    if digits.isEmpty then none else some (digits, rest)
  | _ => some ([], text)

/-- A number.  A zero in front is the only digit before the point. -/
def readNumber (text : Text) : Option (Numeral × Text) := do
  let (negative, rest) := match text with
    | '-' :: r => (true, r)
    | r => (false, r)
  let (whole, rest) := readDigits rest
  if whole.isEmpty || (whole.head? == some '0' && whole.length != 1) then none
  else do
    let (fraction, rest) ← readFraction rest
    let (exponent, rest) ← readExponent rest
    return (⟨negative, whole, fraction, exponent⟩, rest)

mutual

/-- A value. -/
def readValue : Nat → Text → Option (Json × Text)
  | 0, _ => none
  | fuel + 1, text =>
    match skipSpace text with
    | 'n' :: 'u' :: 'l' :: 'l' :: rest => some (null, rest)
    | 't' :: 'r' :: 'u' :: 'e' :: rest => some (bool true, rest)
    | 'f' :: 'a' :: 'l' :: 's' :: 'e' :: rest => some (bool false, rest)
    | '"' :: rest => (readText rest).map fun (s, rest) => (string s, rest)
    | '[' :: rest =>
      match skipSpace rest with
      | ']' :: rest => some (array [], rest)
      | rest => readItems fuel [] rest
    | '\x7b' :: rest =>
      match skipSpace rest with
      | '\x7d' :: rest => some (object [], rest)
      | rest => readMembers fuel [] rest
    | rest => (readNumber rest).map fun (n, rest) => (number n, rest)

/-- The items of an array from the next one on. -/
def readItems (fuel : Nat) (read : List Json) (text : Text) : Option (Json × Text) :=
  match fuel with
  | 0 => none
  | fuel + 1 =>
    match readValue fuel text with
    | none => none
    | some (item, rest) =>
      match skipSpace rest with
      | ',' :: rest => readItems fuel (item :: read) rest
      | ']' :: rest => some (array (item :: read).reverse, rest)
      | _ => none

/-- The members of an object from the next one on. -/
def readMembers (fuel : Nat) (read : List (Option Text × Json)) (text : Text) :
    Option (Json × Text) :=
  match fuel with
  | 0 => none
  | fuel + 1 =>
    match skipSpace text with
    | '"' :: rest =>
      match readText rest with
      | none => none
      | some (name, rest) =>
        match skipSpace rest with
        | ':' :: rest =>
          match readValue fuel rest with
          | none => none
          | some (value, rest) =>
            match skipSpace rest with
            | ',' :: rest => readMembers fuel ((name, value) :: read) rest
            | '\x7d' :: rest => some (object ((name, value) :: read).reverse, rest)
            | _ => none
        | _ => none
    | _ => none

end

/-- The value that a whole text writes. -/
def parse (text : Text) : Option Json :=
  match readValue (2 * text.length + 2) text with
  | some (value, rest) => if (skipSpace rest).isEmpty then some value else none
  | none => none

end CodeRetrieval.Json
