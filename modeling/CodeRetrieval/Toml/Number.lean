/-
# CodeRetrieval.Toml.Number — numbers, dates and times of a TOML document.

A text that starts with a sign or a digit is tried as a date or time, then as a floating-point number,
then as an integer.  Underscores may stand between two digits.  Integers have sixty-four bits, and a
float that is too large is refused if it is positive.
-/
import CodeRetrieval.Toml.Basic
import CodeRetrieval.Toml.Text

namespace CodeRetrieval.Toml

/-! ## Digits -/

/-- The digits that follow a digit, without their underscores. -/
def moreDigits (isDigit : Char → Bool) (read : Text) : Text → Text × Text
  | '_' :: c :: rest =>
    if isDigit c then moreDigits isDigit (c :: read) rest else (read.reverse, '_' :: c :: rest)
  | c :: rest => if isDigit c then moreDigits isDigit (c :: read) rest else (read.reverse, c :: rest)
  | [] => (read.reverse, [])

/-- A run of digits. -/
def readRun (isDigit : Char → Bool) : Text → Option (Text × Text)
  | c :: rest => if isDigit c then some (moreDigits isDigit [c] rest) else none
  | [] => none

/-- The number that digits write in a base. -/
def valueIn (base : Nat) (digits : Text) : Nat :=
  digits.foldl (fun n c => base * n + (Json.hexValue? c).getD 0) 0

/-- A sign, true for minus. -/
def readSign : Text → Bool × Text
  | '-' :: rest => (true, rest)
  | '+' :: rest => (false, rest)
  | text => (false, text)

/-- The digits of a decimal integer: a zero in front stands alone. -/
def readDecimal : Text → Option (Text × Text)
  | '0' :: rest => some (['0'], rest)
  | text => readRun Json.isDigit text

/-! ## Integers -/

/-- The integer, if sixty-four bits hold it. -/
def bounded (n : Int) : Option Value :=
  if -(twoTo 63 : Int) ≤ n ∧ n < (twoTo 63 : Int) then some (.integer n) else none

/-- An integer in a base told by its first two characters. -/
def readBased (base : Nat) (isDigit : Char → Bool) (text : Text) : Option (Value × Text) := do
  let (digits, rest) ← readRun isDigit text
  return (← bounded (valueIn base digits), rest)

/-- An integer. -/
def readInteger : Text → Option (Value × Text)
  | '0' :: 'x' :: rest => readBased 16 (fun c => (Json.hexValue? c).isSome) rest
  | '0' :: 'o' :: rest => readBased 8 (fun c => '0' ≤ c && c ≤ '7') rest
  | '0' :: 'b' :: rest => readBased 2 (fun c => c == '0' || c == '1') rest
  | text => do
    let (negative, rest) := readSign text
    let (digits, rest) ← readDecimal rest
    let n : Int := valueIn 10 digits
    return (← bounded (if negative then -n else n), rest)

/-! ## Floats -/

/-- An infinite or undefined value behind its sign. -/
def readSpecial (negative : Bool) : Text → Option (Value × Text)
  | 'i' :: 'n' :: 'f' :: rest =>
    some (.float (if negative then Binary64.infinity.neg else Binary64.infinity), rest)
  | 'n' :: 'a' :: 'n' :: rest =>
    some (.float (if negative then Binary64.undefined.neg else Binary64.undefined), rest)
  | _ => none

/-- The digits behind a point, if there is one. -/
def readPlaces : Text → Option (Text × Text)
  | '.' :: rest => readRun Json.isDigit rest
  | text => some ([], text)

/-- The power of ten behind a letter, if there is one. -/
def readPower : Text → Option (Option Int × Text)
  | c :: rest =>
    if c = 'e' ∨ c = 'E' then do
      let (down, rest) := readSign rest
      let (digits, rest) ← readRun Json.isDigit rest
      let n : Int := valueIn 10 digits
      return (some (if down then -n else n), rest)
    else some (none, c :: rest)
  | [] => some (none, [])

/-- A float with a point or a power of ten. -/
def readFinite (text : Text) : Option (Value × Text) := do
  let (negative, rest) := readSign text
  let (whole, rest) ← readDecimal rest
  let (places, rest) ← readPlaces rest
  let (power, rest) ← readPower rest
  if places.isEmpty && power.isNone then none
  let x := Decimal.ofLiteral negative (valueIn 10 (whole ++ places)) (power.getD 0 - places.length)
  if x.value.isInf && !negative then none
  return (.float x, rest)

/-- A float. -/
def readFloat (text : Text) : Option (Value × Text) :=
  (readFinite text).or (let (negative, rest) := readSign text; readSpecial negative rest)

/-! ## Dates and times -/

/-- A number of exactly `width` digits within bounds. -/
def readField (width low high : Nat) (text : Text) : Option (Nat × Text) :=
  let digits := text.take width
  if digits.length = width ∧ digits.all Json.isDigit = true then
    let n := valueIn 10 digits
    if low ≤ n ∧ n ≤ high then some (n, text.drop width) else none
  else none

/-- One character. -/
def expect (c : Char) : Text → Option Text
  | d :: rest => if c = d then some rest else none
  | [] => none

/-- The days of a month. -/
def daysOf (year month : Nat) : Nat :=
  if month = 2 then
    if year % 4 = 0 ∧ (year % 100 ≠ 0 ∨ year % 400 = 0) then 29 else 28
  else if month = 4 ∨ month = 6 ∨ month = 9 ∨ month = 11 then 30
  else 31

/-- A date; the rest of the text. -/
def readDate (text : Text) : Option Text := do
  let (year, rest) ← readField 4 0 9999 text
  let (month, rest) ← readField 2 1 12 (← expect '-' rest)
  let (_, rest) ← readField 2 1 (daysOf year month) (← expect '-' rest)
  return rest

/-- A time of day, perhaps with a fraction of a second; the rest of the text. -/
def readTime (text : Text) : Option Text := do
  let (_, rest) ← readField 2 0 23 text
  let (_, rest) ← readField 2 0 59 (← expect ':' rest)
  let (_, rest) ← readField 2 0 60 (← expect ':' rest)
  match rest with
  | '.' :: c :: more =>
    if Json.isDigit c then return more.dropWhile Json.isDigit else return rest
  | _ => return rest

/-- The offset from universal time, if there is one; the rest of the text. -/
def skipOffset (text : Text) : Text :=
  match text with
  | 'Z' :: rest => rest
  | 'z' :: rest => rest
  | c :: rest =>
    let offset : Option Text := do
      let (_, rest) ← readField 2 0 23 rest
      let (_, rest) ← readField 2 0 59 (← expect ':' rest)
      return rest
    if c = '+' ∨ c = '-' then offset.getD text else text
  | [] => []

/-- A date, a time, or both. -/
def readDateTime (text : Text) : Option (Value × Text) :=
  match readDate text with
  | some rest =>
    match rest with
    | c :: after =>
      if c = 'T' ∨ c = 't' ∨ c = ' ' then
        match readTime after with
        | some rest => some (.dateTime, skipOffset rest)
        | none => some (.dateTime, rest)
      else some (.dateTime, rest)
    | [] => some (.dateTime, [])
  | none => (readTime text).map fun rest => (.dateTime, rest)

/-- A date, time or number. -/
def readNumber (text : Text) : Option (Value × Text) :=
  (readDateTime text).or ((readFloat text).or (readInteger text))

end CodeRetrieval.Toml
