/-
# CodeRetrieval.Number.Decimal — doubles in decimal notation, both ways.

A finite double is an integer times a power of two.  Written with a fixed number of places it is
rounded to the nearest multiple of the last place, and of two equally near ones to the even multiple.
Written in the fewest digits it is a decimal that reads back as the same double, the nearest such one
of its length.

`ofParts` reads a decimal in two steps, digits first and the power of ten after them, each rounded on
its own; `ofLiteral` rounds once.
-/
import CodeRetrieval.Number.Binary64
import CodeRetrieval.Text.Basic

namespace CodeRetrieval.Decimal

/-! ## The exact value -/

/-- The magnitude of a finite double: `mantissa * 2 ^ exponent`. -/
structure Magnitude where
  mantissa : Nat
  exponent : Int

/-- The magnitude of a finite double. -/
def magnitude (x : Float) : Magnitude :=
  let bits := x.toBits.toNat % twoTo 63
  let field : Nat := bits / twoTo 52
  let fraction : Nat := bits % twoTo 52
  if field = 0 then ⟨fraction, -1074⟩ else ⟨twoTo 52 + fraction, (field : Int) - 1075⟩

/-- Whether the sign bit is set. -/
def isNegative (x : Float) : Bool := twoTo 63 ≤ x.toBits.toNat

/-- The magnitude as a fraction: numerator and denominator. -/
def Magnitude.fraction (m : Magnitude) : Nat × Nat :=
  if 0 ≤ m.exponent then (m.mantissa * twoTo m.exponent.toNat, 1)
  else (m.mantissa, twoTo (-m.exponent).toNat)

/-! ## A fixed number of places -/

/-- The integer nearest to a quotient, the even one of two. -/
def roundToEven (numerator denominator : Nat) : Nat :=
  let floor := numerator / denominator
  let twice := 2 * (numerator % denominator)
  if twice < denominator then floor
  else if denominator < twice then floor + 1
  else floor + floor % 2

/-- Digits with zeros in front up to a width. -/
def padded (width : Nat) (digits : Text) : Text :=
  List.replicate (width - digits.length) '0' ++ digits

/-- A number of `places`-th parts of one as a decimal. -/
def ofParts10 (places n : Nat) : Text :=
  if places = 0 then Text.ofNat n
  else Text.ofNat (n / tenTo places) ++ '.' :: padded places (Text.ofNat (n % tenTo places))

/-- A double with a fixed number of places. -/
def fixed (places : Nat) (x : Binary64) : Text :=
  if x.isUndefined then Text.ofString "NaN"
  else
    let sign := if isNegative x.value then ['-'] else []
    if x.value.isInf then sign ++ Text.ofString "inf"
    else
      let (n, d) := (magnitude x.value).fraction
      sign ++ ofParts10 places (roundToEven (n * tenTo places) d)

/-! ## The fewest digits -/

/-- The decimals that read back as a double lie between two bounds, given as multiples of a quarter of
its last place; the bounds themselves count for an even mantissa. -/
structure Interval where
  low : Nat
  high : Nat
  closed : Bool

/-- The interval of a magnitude, in quarters of its last place.  Below a power of two the next double is
only half as far away. -/
def Magnitude.interval (m : Magnitude) : Interval :=
  let narrow := m.mantissa = twoTo 52 ∧ m.exponent ≠ -1074
  ⟨4 * m.mantissa - (if narrow then 1 else 2), 4 * m.mantissa + 2, m.mantissa % 2 = 0⟩

/-- Whether `n / d` quarters lie in the interval. -/
def Interval.contains (i : Interval) (n d : Nat) : Bool :=
  if i.closed then i.low * d ≤ n && n ≤ i.high * d else i.low * d < n && n < i.high * d

/-- The power of ten behind the first digit of `n / d`: the least `k` with `n / d < 10 ^ k`, searched
upwards from a bound. -/
def leadingPower (n d : Nat) : Nat → Int → Int
  | 0, k => k
  | fuel + 1, k =>
    let below := if 0 ≤ k then n < d * tenTo k.toNat else n * tenTo (-k).toNat < d
    if below then k else leadingPower n d fuel (k + 1)

/-- A decimal: digits times a power of ten. -/
structure Literal where
  digits : Nat
  power : Int

/-- The nearest decimal with a last place of `10 ^ power` that lies in the interval, if one does; `n / d`
is the value in quarters. -/
def onGrid (i : Interval) (n d : Nat) (quarters : Int) (power : Int) : Option Literal :=
  -- one grid step is `step / unit` quarters
  let p := if 0 ≤ power then tenTo power.toNat else 1
  let q := if 0 ≤ power then 1 else tenTo (-power).toNat
  let step := p * (if 0 ≤ quarters then 1 else twoTo (-quarters).toNat)
  let unit := q * (if 0 ≤ quarters then twoTo quarters.toNat else 1)
  let floor := n * unit / (d * step)
  let lowHits := i.contains (floor * step) unit
  let highHits := i.contains ((floor + 1) * step) unit
  let twice := 2 * (n * unit - floor * (d * step))
  match lowHits, highHits with
  | false, false => none
  | true, false => some ⟨floor, power⟩
  | false, true => some ⟨floor + 1, power⟩
  | true, true =>
    if twice < d * step then some ⟨floor, power⟩
    else if d * step < twice then some ⟨floor + 1, power⟩
    else some ⟨floor + floor % 2, power⟩

/-- The decimal of fewest digits that reads back as a finite double that is not zero: it lies on the
coarsest grid that has one, and the power of ten right above the double is the first that is tried. -/
def shortest (x : Float) : Literal :=
  let m := magnitude x
  let (n, d) := m.fraction
  let lead := leadingPower n d 700 (-330)
  let i := m.interval
  let candidates := (List.range 18).filterMap fun (k : Nat) =>
    onGrid i (4 * m.mantissa) 1 (m.exponent - 2) (lead - k)
  candidates.headD ⟨0, 0⟩

/-! ## Reading -/

/-- A power of ten, rounded to the nearest double. -/
def powerOfTen (k : Nat) : Float := OfScientific.ofScientific 1 false k

/-- Scale by a power of ten; nothing if the result is too large. -/
def scale (x : Float) (power : Int) : Option Float :=
  if 0 ≤ power then
    if power ≤ 308 then
      let y := x * powerOfTen power.toNat
      if y.isInf then none else some y
    else if x == 0.0 then some x else none
  else if -308 ≤ power then some (x / powerOfTen (-power).toNat)
  else
    -- two steps more lead every double to zero
    let y := x / powerOfTen 308
    let power := power + 308
    if -308 ≤ power then some (y / powerOfTen (-power).toNat)
    else
      let z := y / powerOfTen 308
      let power := power + 308
      if z == 0.0 then some z
      else if -308 ≤ power then some (z / powerOfTen (-power).toNat) else some 0.0

/-- A decimal rounded in two steps. -/
def ofParts (negative : Bool) (digits : Nat) (power : Int) : Option Binary64 :=
  (scale (Float.ofNat digits) power).map fun x => Binary64.ofFloat (if negative then -x else x)

/-- A decimal rounded once; powers beyond every double's range stand for the range's ends. -/
def ofLiteral (negative : Bool) (digits : Nat) (power : Int) : Binary64 :=
  let x : Float :=
    if digits = 0 then 0.0
    else if 400 < power then 1.0 / 0.0
    else if 0 ≤ power then OfScientific.ofScientific digits false power.toNat
    else
      let size : Int := (Text.ofNat digits).length
      if size + power < -400 then 0.0
      else OfScientific.ofScientific digits true (-power).toNat
  Binary64.ofFloat (if negative then -x else x)

end CodeRetrieval.Decimal
