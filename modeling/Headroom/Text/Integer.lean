/-!
# Decimal integers

Integers are written with ASCII digits, a minus sign in front of the negative ones and no leading
zeros. Reading is wider than writing: leading zeros and one plus sign are allowed, and a value
outside the demanded range is refused.
-/

namespace Headroom.Text

/-- The decimal digits of a natural number, the most significant first. -/
def ofNat (n : Nat) : List Char :=
  Nat.toDigits 10 n

/-- The decimal form of an integer. -/
def ofInt (n : Int) : List Char :=
  if n < 0 then '-' :: ofNat n.natAbs else ofNat n.natAbs

/-- The value of a list of decimal digits. -/
def digitsValue (digits : List Char) : Nat :=
  digits.foldl (fun value digit => 10 * value + (digit.toNat - '0'.toNat)) 0

/-- Reads a natural number: at least one character, and digits only. -/
def readNat? (text : List Char) : Option Nat :=
  if text ≠ [] ∧ text.all Char.isDigit then some (digitsValue text) else none

/-- Reads a natural number with an optional plus sign, at most `greatest`. -/
def readUnsigned? (greatest : Nat) (text : List Char) : Option Nat :=
  let digits := match text with
    | '+' :: rest => rest
    | _ => text
  (readNat? digits).filter (· ≤ greatest)

/-- Reads an integer with an optional sign that lies between `least` and `greatest`. -/
def readSigned? (least greatest : Int) (text : List Char) : Option Int :=
  let value := match text with
    | '-' :: rest => (readNat? rest).map fun n => -(n : Int)
    | '+' :: rest => (readNat? rest).map fun n => (n : Int)
    | _ => (readNat? text).map fun n => (n : Int)
  value.filter fun n => least ≤ n && n ≤ greatest

end Headroom.Text
