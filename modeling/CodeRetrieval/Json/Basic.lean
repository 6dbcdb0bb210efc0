/-
# CodeRetrieval.Json.Basic — JSON values.

A number keeps its digits as they are written, because readers differ in what they make of them: an
index wants a natural number, a score a double.  A string may hold an escape that names no character;
such a string can be passed over but not read.
-/
import CodeRetrieval.Number.Decimal

namespace CodeRetrieval

/-- A number as it is written. -/
structure Numeral where
  negative : Bool
  whole : Text
  fraction : Text
  exponent : Option (Bool × Text)
deriving DecidableEq

/-- A JSON value.  A string is `none` if its escapes name no character. -/
inductive Json where
  | null
  | bool (b : Bool)
  | number (n : Numeral)
  | string (s : Option Text)
  | array (items : List Json)
  | object (members : List (Option Text × Json))

namespace Numeral

/-- The natural number that digits write. -/
def digitsValue (digits : Text) : Nat := digits.foldl (fun n c => 10 * n + (c.toNat - 48)) 0

/-- The numeral of a natural number. -/
def ofNat (n : Nat) : Numeral := ⟨false, Text.ofNat n, [], none⟩

/-- Whether the numeral is a bare sequence of digits. -/
def isWhole (n : Numeral) : Bool := n.fraction.isEmpty && n.exponent.isNone

/-- The natural number of a numeral without sign, fraction and exponent. -/
def toNat? (n : Numeral) : Option Nat :=
  if n.isWhole && !n.negative then some (digitsValue n.whole) else none

/-- The largest natural number of sixty-four bits. -/
def maxWord : Nat := twoTo 64 - 1

/-- Digits read into a word until they no longer fit: the word and the digits left over. -/
def readDigits (word : Nat) : Text → Nat × Text
  | [] => (word, [])
  | c :: rest =>
    let next := 10 * word + (c.toNat - 48)
    if maxWord < next then (word, c :: rest) else readDigits next rest

/-- The largest exponent that is read. -/
def maxExponent : Nat := twoTo 31 - 1

/-- The value as a double: digits beyond a word of sixty-four bits count only as powers of ten, and a
value beyond the range of doubles is none. -/
def toBinary64? (n : Numeral) : Option Binary64 :=
  let (word, unread) := readDigits 0 n.whole
  let (digits, power) : Nat × Int :=
    if unread.isEmpty then
      let (word, left) := readDigits word n.fraction
      (word, -((n.fraction.length - left.length : Nat) : Int))
    else if n.fraction.isEmpty then (word, unread.length)
    else
      -- a full word takes no digit of the fraction either, unless the next digit fits
      let (word', left) := readDigits word n.fraction
      (word', (unread.length : Int) - ((n.fraction.length - left.length : Nat) : Int))
  match n.exponent with
  | none => Decimal.ofParts n.negative digits power
  | some (down, e) =>
    let e := digitsValue e
    if maxExponent < e then
      if digits ≠ 0 && !down then none else some (Binary64.ofFloat (if n.negative then -0.0 else 0.0))
    else Decimal.ofParts n.negative digits (if down then power - e else power + e)

/-- The value in single precision.  A bare sequence of digits that is a word, with a sign a word of half the
range, is rounded once, and any other number by way of a double. -/
def toSingle? (n : Numeral) : Option Binary64 :=
  let word := digitsValue n.whole
  if n.isWhole && !n.negative && word ≤ maxWord then some (Binary64.singleOfWord word)
  else if n.isWhole && n.negative && 1 ≤ word && word ≤ twoTo 63 then
    some (Binary64.singleOfWord word).neg
  else n.toBinary64?.map Binary64.toSingle

/-- The numeral of a decimal: positional from the fifth place behind the point up to sixteen digits
before it, otherwise one digit, the others behind a point, and a power of ten. -/
def ofDecimal (negative : Bool) (d : Decimal.Literal) : Numeral :=
  let digits := Text.ofNat d.digits
  let point : Int := digits.length + d.power
  if 0 < point ∧ point ≤ 16 then
    if 0 ≤ d.power then ⟨negative, digits ++ List.replicate d.power.toNat '0', ['0'], none⟩
    else ⟨negative, digits.take point.toNat, digits.drop point.toNat, none⟩
  else if -5 < point ∧ point ≤ 0 then
    ⟨negative, ['0'], List.replicate (-point).toNat '0' ++ digits, none⟩
  else
    ⟨negative, digits.take 1, digits.drop 1, some (decide (point ≤ 0), Text.ofNat (point - 1).natAbs)⟩

/-- The numeral of a double in the fewest digits that read back; none for infinite and undefined
values. -/
def ofBinary64 (x : Binary64) : Option Numeral :=
  if x.isUndefined || x.value.isInf then none
  else if x.value == 0.0 then some ⟨Decimal.isNegative x.value, ['0'], ['0'], none⟩
  else some (ofDecimal (Decimal.isNegative x.value) (Decimal.shortest x.value))

end Numeral

namespace Json

/-- The value of a text. -/
def ofText (t : Text) : Json := string (some t)

/-- The value of a string. -/
def ofString (s : String) : Json := ofText s.toList

/-- The value of a natural number. -/
def ofNat (n : Nat) : Json := number (Numeral.ofNat n)

/-- The value of a double; null for infinite and undefined ones. -/
def ofBinary64 (x : Binary64) : Json :=
  match Numeral.ofBinary64 x with
  | some n => number n
  | none => null

/-- An object of named members. -/
def ofMembers (members : List (String × Json)) : Json :=
  object (members.map fun m => (some m.1.toList, m.2))

/-- The member of a name. -/
def get? (json : Json) (name : String) : Option Json :=
  match json with
  | object members => (members.find? (·.1 == some name.toList)).map (·.2)
  | _ => none

/-- The text of a string. -/
def toText? : Json → Option Text
  | string s => s
  | _ => none

/-- The natural number of a number. -/
def toNat? : Json → Option Nat
  | number n => n.toNat?
  | _ => none

/-- The double of a number. -/
def toBinary64? : Json → Option Binary64
  | number n => n.toBinary64?
  | _ => none

/-- The value of a number in single precision. -/
def toSingle? : Json → Option Binary64
  | number n => n.toSingle?
  | _ => none

/-- The items of an array. -/
def toList? : Json → Option (List Json)
  | array items => some items
  | _ => none

end Json

end CodeRetrieval
