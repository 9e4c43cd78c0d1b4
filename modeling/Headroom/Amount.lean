import Headroom.Text.Integer
/-!
# Amounts

An amount of a resource is an integer that fits into 64 bits with sign. Sums and differences that do
not fit stop at the nearest bound. The bounds are part of the type, so every amount is in range.
-/

namespace Headroom

/-- An integer between `-2 ^ 63` and `2 ^ 63 - 1`. -/
@[ext] structure Amount where
  val : Int
  least_le : -9223372036854775808 ≤ val := by decide
  le_greatest : val ≤ 9223372036854775807 := by decide
deriving DecidableEq

namespace Amount

/-- The smallest amount. -/
def least : Amount := { val := -9223372036854775808 }

/-- The largest amount. -/
def greatest : Amount := { val := 9223372036854775807 }

/-- The amount zero. -/
def zero : Amount := { val := 0 }

instance : Inhabited Amount := ⟨zero⟩

/-- The amount of this value, if it is in range. -/
def ofInt? (n : Int) : Option Amount :=
  if bounds : -9223372036854775808 ≤ n ∧ n ≤ 9223372036854775807 then
    some { val := n, least_le := bounds.1, le_greatest := bounds.2 }
  else none

/-- The amount nearest to an integer. -/
def clamp (n : Int) : Amount where
  val := max (-9223372036854775808) (min n 9223372036854775807)
  least_le := by omega
  le_greatest := by omega

/-- The sum, stopped at the bounds. -/
def add (a b : Amount) : Amount := clamp (a.val + b.val)

/-- The difference, stopped at the bounds. -/
def sub (a b : Amount) : Amount := clamp (a.val - b.val)

/-- The larger of two amounts. -/
def max (a b : Amount) : Amount := if a.val < b.val then b else a

/-- The decimal form. -/
def text (a : Amount) : String := String.ofList (Text.ofInt a.val)

/-- Reads an amount in decimal form, with an optional sign. -/
def read? (text : List Char) : Option Amount :=
  (Text.readSigned? (-9223372036854775808) 9223372036854775807 text).bind ofInt?

theorem ofInt?_val (a : Amount) : ofInt? a.val = some a := by
  simp only [ofInt?, a.least_le, a.le_greatest, and_self, dite_true]

/-- An integer in range is its own nearest amount. -/
theorem clamp_val (a : Amount) : clamp a.val = a := by
  have low := a.least_le
  have high := a.le_greatest
  ext
  simp only [clamp]
  omega

theorem add_zero (a : Amount) : a.add zero = a := by
  rw [add, zero, Int.add_zero, clamp_val]

/-- Amounts that are not negative may be added in any order: a sum that has stopped at the largest
amount stays there. -/
theorem add_right_comm (a : Amount) {b c : Amount} (hb : 0 ≤ b.val) (hc : 0 ≤ c.val) :
    (a.add b).add c = (a.add c).add b := by
  ext
  have lowest := a.least_le
  simp only [add, clamp]
  omega

theorem add_nonneg {a b : Amount} (ha : 0 ≤ a.val) (hb : 0 ≤ b.val) : 0 ≤ (a.add b).val := by
  simp only [add, clamp]
  omega

theorem max_nonneg (a : Amount) {b : Amount} (hb : 0 ≤ b.val) : 0 ≤ (a.max b).val := by
  unfold max
  split <;> omega

end Amount

end Headroom
