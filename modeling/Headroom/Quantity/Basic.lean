import Headroom.Amount
import Headroom.Resource.Error
import Headroom.Text.Split
/-!
# Quantities

A quantity is a decimal number with an optional sign and a suffix that scales it: `1500m`, `512Mi`,
`+01.50e3`. It is kept exactly, as sign, mantissa and powers of ten and two, beside its text.
-/

namespace Headroom

/-- The quantity `mantissa * 10 ^ exponent * 2 ^ binary`, negated if `negative`, as `text` has
it. -/
structure Quantity where
  text : String
  negative : Bool
  mantissa : Nat
  exponent : Int
  binary : Nat
deriving DecidableEq

namespace Quantity

/-- At most so many digits count: those of the whole part after its leading zeros, and all of the
fraction. -/
def maxDigits : Nat := 36

/-- Whether an exponent fits into 32 bits with sign. -/
def exponentFits (exponent : Int) : Bool :=
  -2147483648 ≤ exponent && exponent ≤ 2147483647

/-- The sign, if one is written, and the text after it. -/
def splitSign : List Char → Bool × List Char
  | '-' :: rest => (true, rest)
  | '+' :: rest => (false, rest)
  | rest => (false, rest)

/-- Whether a character belongs to the number and not to the suffix. -/
def isNumberChar (c : Char) : Bool := c.isDigit || c = '.'

/-- The number `mantissa / 10 ^ places`. -/
structure Decimal where
  mantissa : Nat
  places : Nat
deriving DecidableEq

/-- Reads digits with at most one point, and at least one digit. -/
def readDecimal? (number : List Char) : Option Decimal :=
  let (whole, fraction) := (Text.splitFirst? '.' number).getD (number, [])
  if whole = [] ∧ fraction = [] then none
  else if '.' ∈ fraction then none
  else if maxDigits < (whole.dropWhile (· = '0')).length + fraction.length then none
  else some { mantissa := Text.digitsValue (whole ++ fraction), places := fraction.length }

/-- The factor `10 ^ ten * 2 ^ two` that a suffix stands for. -/
structure Scale where
  ten : Int
  two : Nat
deriving DecidableEq

/-- Reads a suffix. `E` alone is a factor; before digits it marks an exponent, as `e` does. -/
def readSuffix? : List Char → Option Scale
  | [] => some { ten := 0, two := 0 }
  | ['K', 'i'] => some { ten := 0, two := 10 }
  | ['M', 'i'] => some { ten := 0, two := 20 }
  | ['G', 'i'] => some { ten := 0, two := 30 }
  | ['T', 'i'] => some { ten := 0, two := 40 }
  | ['P', 'i'] => some { ten := 0, two := 50 }
  | ['E', 'i'] => some { ten := 0, two := 60 }
  | ['n'] => some { ten := -9, two := 0 }
  | ['u'] => some { ten := -6, two := 0 }
  | ['m'] => some { ten := -3, two := 0 }
  | ['k'] => some { ten := 3, two := 0 }
  | ['M'] => some { ten := 6, two := 0 }
  | ['G'] => some { ten := 9, two := 0 }
  | ['T'] => some { ten := 12, two := 0 }
  | ['P'] => some { ten := 15, two := 0 }
  | ['E'] => some { ten := 18, two := 0 }
  | c :: exponent =>
      if c = 'e' ∨ c = 'E' then
        (Text.readSigned? (-2147483648) 2147483647 exponent).map fun ten => { ten, two := 0 }
      else none

/-- Reads a quantity, or says what is wrong first: the number, the suffix, then the exponent. -/
def read (text : String) : Except QuantityFault Quantity :=
  if text = "" then .error .empty
  else
    let (negative, rest) := splitSign text.toList
    let number := rest.takeWhile isNumberChar
    match readDecimal? number with
    | none => .error (if maxDigits < number.length then .tooManyDigits else .notDecimal)
    | some decimal =>
        match readSuffix? (rest.dropWhile isNumberChar) with
        | none => .error .unknownSuffix
        | some scale =>
            let exponent := scale.ten - decimal.places
            if exponentFits exponent then
              .ok { text, negative, mantissa := decimal.mantissa, exponent, binary := scale.two }
            else .error .exponentRange

/-- Reads a quantity; the error names the text. -/
def parse (text : String) : Except ResourceError Quantity :=
  (read text).mapError (.invalidQuantity text)

/-- The quantity of a whole number of units. -/
def ofUnits (amount : Amount) : Quantity where
  text := amount.text
  negative := amount.val < 0
  mantissa := amount.val.natAbs
  exponent := 0
  binary := 0

/-- The quantity of a whole number of thousandths. -/
def ofMillis (amount : Amount) : Quantity where
  text := amount.text ++ "m"
  negative := amount.val < 0
  mantissa := amount.val.natAbs
  exponent := -3
  binary := 0

/-- Whether the quantity is below zero. A zero with a minus sign is not. -/
def isNegative (quantity : Quantity) : Bool := quantity.negative && quantity.mantissa != 0

end Quantity

end Headroom
