import Headroom.Text.Integer
/-!
# Times in seconds

A time is kept in milliseconds and shown in seconds. The shown number is a double: whole seconds and
the fraction are each rounded to a double and added. Of the decimals that read back as that double
the one with the fewest digits is written, without an exponent.
-/

namespace Headroom.Text

/-- A positive rational `numerator / denominator` and the open or closed interval of the rationals
that round to the same double, over the same denominator. -/
structure RoundingInterval where
  numerator : Nat
  low : Nat
  high : Nat
  denominator : Nat
  closed : Bool

/-- The number of doubles from one power of two up to the next: `2 ^ 52`. -/
def doublesPerPower : Nat := 4503599627370496

/-- The rounding interval of a finite positive double. Below a power of two the doubles lie twice
as close, so there the interval reaches down half as far. -/
def RoundingInterval.ofDouble (x : Float) : RoundingInterval :=
  let bits := x.toBits.toNat
  let field : Nat := bits / doublesPerPower % 2048
  let fraction : Nat := bits % doublesPerPower
  let mantissa : Nat := if field = 0 then fraction else fraction + doublesPerPower
  let power : Int := (if field = 0 then 1 else (field : Int)) - 1077
  let scale := Nat.pow 2 power.toNat
  { numerator := 4 * mantissa * scale
    low := (4 * mantissa - (if fraction = 0 ∧ 1 < field then 1 else 2)) * scale
    high := (4 * mantissa + 2) * scale
    denominator := Nat.pow 2 (-power).toNat
    closed := mantissa % 2 = 0 }

/-- The multiple of `10 ^ place` nearest to the number, as its factor, if one lies within. Of two
that are equally near it is the greater. -/
def RoundingInterval.multiple? (interval : RoundingInterval) (place : Int) : Option Nat :=
  let unit := interval.denominator * Nat.pow 10 place.toNat
  let stretch := Nat.pow 10 (-place).toNat
  let inside := fun factor : Nat =>
    let point := factor * unit
    if interval.closed then
      interval.low * stretch ≤ point && point ≤ interval.high * stretch
    else interval.low * stretch < point && point < interval.high * stretch
  let below := interval.numerator * stretch / unit
  let nearer := if 2 * (interval.numerator * stretch - below * unit) < unit then
      [below, below + 1] else [below + 1, below]
  nearer.find? inside

/-- The decimal form of `factor * 10 ^ place` without an exponent. -/
def positional (factor : Nat) (place : Int) : List Char :=
  let digits := ofNat factor
  if 0 ≤ place then digits ++ List.replicate place.toNat '0'
  else
    let places := (-place).toNat
    let padded := List.replicate (places + 1 - digits.length) '0' ++ digits
    padded.take (padded.length - places) ++ '.' :: padded.drop (padded.length - places)

/-- The fewest digits that read back as the double, the coarsest decimal place first. -/
def shortestDecimal (x : Float) : List Char :=
  let interval := RoundingInterval.ofDouble x
  let places : List Int := (List.range 40).map fun (i : Nat) => 20 - (i : Int)
  let found := places.findSome? fun place =>
    (interval.multiple? place).map fun factor => positional factor place
  found.getD ['0']

/-- A number of milliseconds as a decimal number of seconds. -/
def seconds (milliseconds : Nat) : String :=
  let whole := Float.ofNat (milliseconds / 1000)
  let fraction := Float.ofNat (milliseconds % 1000 * 1000000) / Float.ofNat 1000000000
  if milliseconds = 0 then "0" else String.ofList (shortestDecimal (whole + fraction))

end Headroom.Text
