import Headroom.Quantity.Basic
/-!
# Quantities as amounts

A quantity becomes a whole number of units, or of thousandths, by rounding toward positive infinity.
The size is computed in 128 bits and has to fit into 63; otherwise the conversion is refused, and
the sign is put back last.
-/

namespace Headroom.Quantity

/-- The sizes in between stay below this bound. -/
def sizeBound : Nat := 340282366920938463463374607431768211456

/-- The largest power of ten below the bound is `10 ^ 38`. -/
def maxPower : Nat := 38

/-- A size divided by `10 ^ places`, rounded so that the signed number is rounded up. -/
def shrink (negative : Bool) (size places : Nat) : Nat :=
  if maxPower < places then
    if negative || size = 0 then 0 else 1
  else if negative then size / Nat.pow 10 places
  else (size + (Nat.pow 10 places - 1)) / Nat.pow 10 places

/-- The size of the quantity times `10 ^ shift`, rounded, if no step reaches the bound. -/
def size? (quantity : Quantity) (shift : Nat) : Option Nat :=
  let size := quantity.mantissa * Nat.pow 2 quantity.binary
  let exponent := quantity.exponent + shift
  if sizeBound ≤ size ∨ !exponentFits exponent then none
  else if exponent < 0 then some (shrink quantity.negative size exponent.natAbs)
  else if maxPower < exponent.natAbs then none
  else
    let scaled := size * Nat.pow 10 exponent.natAbs
    if sizeBound ≤ scaled then none else some scaled

/-- The amount of a sign and a size. Sizes of `2 ^ 63` and more are refused for both signs. -/
def signed? (negative : Bool) (size : Nat) : Option Amount :=
  if bound : size ≤ 9223372036854775807 then
    some (if negative then { val := -size, least_le := by omega, le_greatest := by omega }
      else { val := size, least_le := by omega, le_greatest := by omega })
  else none

/-- The quantity times `10 ^ shift` as an amount. -/
def scaled (quantity : Quantity) (shift : Nat) : Except ResourceError Amount :=
  match (quantity.size? shift).bind (signed? quantity.negative) with
  | some amount => .ok amount
  | none => .error (.quantityOverflow quantity.text)

/-- The quantity in units. -/
def value (quantity : Quantity) : Except ResourceError Amount := quantity.scaled 0

/-- The quantity in thousandths of a unit. -/
def milliValue (quantity : Quantity) : Except ResourceError Amount := quantity.scaled 3

end Headroom.Quantity
