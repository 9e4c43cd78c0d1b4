import Headroom.Proofs.Quantity.Grammar
import Mathlib.Data.Rat.Floor
/-!
# Quantities as amounts

The size of a quantity is computed in bounded steps and the sign is put back last. An amount that
comes out is the number rounded up (`val_eq_rounded`). A quantity is refused when the rounded number
is no amount, and in three more cases: the smallest amount, zero with a large exponent, and a
product with the power of two that is out of bounds before the digits after the point are cut off
(`scaled_eq_error_iff`).
-/

namespace Headroom.Quantity

variable {quantity : Quantity} {shift size places : Nat} {negative : Bool} {amount : Amount}
  {text : String} {fault : ResourceError}

/-- A size with its sign. -/
def withSign (negative : Bool) (size : Nat) : Int := if negative then -size else size

/-- The product of the digits and the power of two. -/
def magnitude (quantity : Quantity) : Nat := quantity.mantissa * 2 ^ quantity.binary

/-- The number of a quantity, shifted and rounded up. -/
def rounded (quantity : Quantity) (shift : Nat) : Int := ⌈quantity.number * 10 ^ shift⌉

theorem number_mul_pow (quantity : Quantity) (shift : Nat) : quantity.number * 10 ^ shift =
    withSign quantity.negative quantity.magnitude * 10 ^ (quantity.exponent + shift) := by
  have ten : (10 : ℚ) ≠ 0 := by norm_num
  rw [number, zpow_add₀ ten, zpow_natCast, withSign, magnitude]
  cases quantity.negative with
  | true =>
      rw [if_pos rfl, if_pos rfl]
      push_cast
      ring
  | false =>
      rw [if_neg Bool.false_ne_true, if_neg Bool.false_ne_true]
      push_cast
      ring

/-! ## Rounding -/

theorem sizeBound_le_pow (many : maxPower < places) : sizeBound ≤ 10 ^ places :=
  calc sizeBound ≤ 10 ^ 39 := by decide
    _ ≤ 10 ^ places := Nat.pow_le_pow_right (by decide) many

/-- The cases of a divisor beyond the bound are those of the division. -/
theorem shrink_eq (small : size < sizeBound) : shrink negative size places =
    if negative then size / 10 ^ places else (size + (10 ^ places - 1)) / 10 ^ places := by
  by_cases many : maxPower < places
  · -- the divisor is larger than any size, so the quotient is nothing or a part of one
    have large := sizeBound_le_pow many
    rw [shrink, if_pos many]
    cases negative with
    | true => exact (Nat.div_eq_of_lt (by omega)).symm
    | false =>
        by_cases zero : size = 0
        · subst zero
          exact (Nat.div_eq_of_lt (by omega)).symm
        · have one : (size + (10 ^ places - 1)) / 10 ^ places = 1 :=
            Nat.div_eq_of_lt_le (by omega) (by omega)
          simp [zero, one]
  · rw [shrink, if_neg many]
    rfl

/-- Division rounds down, so minus the quotient of minus a number is rounded up. -/
theorem neg_neg_ediv (size : Nat) {divisor : Nat} (positive : 0 < divisor) :
    -(-(size : Int) / divisor) = ((size + (divisor - 1)) / divisor : Nat) := by
  have parts := Nat.div_add_mod (size + (divisor - 1)) divisor
  have below := Nat.mod_lt (size + (divisor - 1)) positive
  have split : -(size : Int) = (divisor - 1 - (size + (divisor - 1)) % divisor : Nat) +
      divisor * -((size + (divisor - 1)) / divisor : Nat) := by
    rw [Int.mul_neg, ← Int.natCast_mul]
    omega
  rw [split, Int.add_mul_ediv_left _ _ (by omega), Int.ediv_eq_zero_of_lt (by omega) (by omega)]
  omega

theorem ceil_withSign_div (small : size < sizeBound) :
    ⌈(withSign negative size : ℚ) / 10 ^ places⌉ =
      withSign negative (shrink negative size places) := by
  have cast : (10 : ℚ) ^ places = (10 ^ places : Nat) := by norm_cast
  rw [cast, Rat.ceil_intCast_div_natCast, shrink_eq small]
  cases negative with
  | true =>
      show -(- -(size : Int) / (10 ^ places : Nat)) = -((size / 10 ^ places : Nat) : Int)
      rw [Int.neg_neg, Int.natCast_ediv]
  | false => exact neg_neg_ediv size (Nat.pow_pos (by decide))

theorem rounded_of_neg (below : quantity.exponent + shift < 0)
    (small : quantity.magnitude < sizeBound) : quantity.rounded shift =
      withSign quantity.negative
        (shrink quantity.negative quantity.magnitude (quantity.exponent + shift).natAbs) := by
  have exponent : quantity.exponent + shift = -((quantity.exponent + shift).natAbs : Int) := by
    omega
  rw [rounded, number_mul_pow, exponent, zpow_neg, zpow_natCast, ← div_eq_mul_inv,
    Int.natAbs_neg, Int.natAbs_natCast]
  exact ceil_withSign_div small

theorem rounded_of_nonneg (above : ¬quantity.exponent + shift < 0) : quantity.rounded shift =
    withSign quantity.negative
      (quantity.magnitude * 10 ^ (quantity.exponent + shift).natAbs) := by
  have exponent : quantity.exponent + shift = ((quantity.exponent + shift).natAbs : Int) := by
    omega
  rw [rounded, number_mul_pow, exponent, zpow_natCast, Int.natAbs_natCast]
  have whole : (withSign quantity.negative quantity.magnitude : ℚ) *
      10 ^ (quantity.exponent + shift).natAbs =
        (withSign quantity.negative quantity.magnitude *
          10 ^ (quantity.exponent + shift).natAbs : Int) := by
    push_cast
    rfl
  rw [whole, Int.ceil_intCast]
  cases quantity.negative with
  | true => simp [withSign]
  | false => simp [withSign]

/-- What comes out of the bounded steps is the number rounded up. -/
theorem rounded_eq_of_size? (found : quantity.size? shift = some size) :
    quantity.rounded shift = withSign quantity.negative size := by
  rw [size?, Option.ite_none_left_eq_some, not_or] at found
  obtain ⟨⟨small, -⟩, found⟩ := found
  by_cases below : quantity.exponent + shift < 0
  · rw [if_pos below] at found
    rw [rounded_of_neg below (not_le.mp small), ← Option.some.inj found]
    rfl
  · rw [if_neg below, Option.ite_none_left_eq_some, Option.ite_none_left_eq_some] at found
    rw [rounded_of_nonneg below, ← Option.some.inj found.2.2]
    rfl

/-! ## Amounts -/

/-- Whether an integer is an amount. -/
def IsAmount (n : Int) : Prop := -9223372036854775808 ≤ n ∧ n ≤ 9223372036854775807

theorem signed?_eq_some_iff : signed? negative size = some amount ↔
    size ≤ 9223372036854775807 ∧ amount.val = withSign negative size := by
  unfold signed?
  split
  · next bound =>
    rw [Option.some.injEq, withSign]
    cases negative <;> simp [bound, Amount.ext_iff, eq_comm]
  · next bound => simp [bound]

theorem scaled_eq_ok_iff : quantity.scaled shift = .ok amount ↔
    ∃ size, quantity.size? shift = some size ∧ size ≤ 9223372036854775807 ∧
      amount.val = withSign quantity.negative size := by
  simp only [← signed?_eq_some_iff, ← Option.bind_eq_some_iff]
  unfold scaled
  cases (quantity.size? shift).bind (signed? quantity.negative) <;> simp

/-- A conversion fails in one way only. -/
theorem eq_quantityOverflow (failed : quantity.scaled shift = .error fault) :
    fault = .quantityOverflow quantity.text := by
  unfold scaled at failed
  split at failed
  · contradiction
  · exact (Except.error.inj failed).symm

/-- An amount that comes out is the number rounded up. -/
theorem val_eq_rounded (converted : quantity.scaled shift = .ok amount) :
    amount.val = quantity.rounded shift := by
  obtain ⟨size, computed, -, same⟩ := scaled_eq_ok_iff.mp converted
  rw [same, rounded_eq_of_size? computed]

theorem rounded_zero (quantity : Quantity) : quantity.rounded 0 = ⌈quantity.number⌉ := by
  rw [rounded, pow_zero, mul_one]

theorem rounded_three (quantity : Quantity) : quantity.rounded 3 = ⌈1000 * quantity.number⌉ := by
  rw [rounded, mul_comm]
  norm_num

/-! ## Refusals -/

/-- Why no amount comes out of a quantity that rounds up to `n`. -/
inductive Refused (quantity : Quantity) (shift : Nat) (n : Int) : Prop
  /-- The number is no amount. -/
  | outside (outside : ¬IsAmount n)
  /-- The size of the smallest amount is refused before it gets its sign. -/
  | least (least : n = -9223372036854775808)
  /-- The power of ten is out of bounds, though it has nothing to multiply. -/
  | zero (zero : quantity.number = 0) (large : 38 < quantity.exponent + shift)
  /-- The digits times the power of two are out of bounds before they are divided. -/
  | wide (wide : 340282366920938463463374607431768211456 ≤ quantity.mantissa * 2 ^ quantity.binary)

theorem bounds_of_size? (found : quantity.size? shift = some size) :
    quantity.magnitude < sizeBound ∧ quantity.exponent + shift ≤ 38 := by
  rw [size?, Option.ite_none_left_eq_some, not_or] at found
  obtain ⟨⟨small, -⟩, found⟩ := found
  refine ⟨not_le.mp small, ?_⟩
  by_cases below : quantity.exponent + shift < 0
  · omega
  · rw [if_neg below, Option.ite_none_left_eq_some] at found
    have few := found.1
    unfold maxPower at few
    omega

theorem not_ok_of_refused (refused : quantity.Refused shift (quantity.rounded shift)) :
    quantity.scaled shift ≠ .ok amount := by
  intro converted
  obtain ⟨size, computed, small, -⟩ := scaled_eq_ok_iff.mp converted
  obtain ⟨narrow, few⟩ := bounds_of_size? computed
  cases refused with
  | outside outside =>
      rw [← val_eq_rounded converted] at outside
      exact outside ⟨amount.least_le, amount.le_greatest⟩
  | least least =>
      rw [rounded_eq_of_size? computed, withSign] at least
      split at least <;> omega
  | zero zero large => omega
  | wide wide => exact absurd narrow (not_lt.mpr wide)

theorem natAbs_withSign (negative : Bool) (size : Nat) :
    (withSign negative size).natAbs = size := by
  cases negative with
  | true => exact (Int.natAbs_neg _).trans (Int.natAbs_natCast size)
  | false => exact Int.natAbs_natCast size

theorem natAbs_le_of_isAmount {n : Int} (isAmount : IsAmount n) :
    n.natAbs ≤ 9223372036854775808 := by
  unfold IsAmount at isAmount
  omega

theorem number_eq_zero (zero : quantity.magnitude = 0) : quantity.number = 0 := by
  have mantissa : quantity.mantissa = 0 := by
    simpa [magnitude] using zero
  rw [number, mantissa]
  simp

/-- A number other than zero is no amount when it is multiplied by a power of ten out of bounds. -/
theorem exponent_le (isAmount : IsAmount (quantity.rounded shift))
    (some_digit : quantity.magnitude ≠ 0) : quantity.exponent + shift ≤ 38 := by
  by_contra large
  have size := natAbs_le_of_isAmount isAmount
  rw [rounded_of_nonneg (by omega), natAbs_withSign] at size
  have power : sizeBound ≤ 10 ^ (quantity.exponent + shift).natAbs :=
    sizeBound_le_pow (by unfold maxPower; omega)
  have product := Nat.mul_le_mul (Nat.one_le_iff_ne_zero.mpr some_digit) power
  unfold sizeBound at product
  omega

/-- Outside the four cases the steps stay in bounds. -/
theorem exists_size?_eq_some (least : -2147483648 ≤ quantity.exponent)
    (allowed : ¬quantity.Refused shift (quantity.rounded shift)) :
    ∃ size, quantity.size? shift = some size := by
  have isAmount : IsAmount (quantity.rounded shift) :=
    not_not.mp fun outside => allowed (.outside outside)
  have narrow : quantity.magnitude < sizeBound := not_le.mp fun wide => allowed (.wide wide)
  -- a number other than zero leaves the range before its power of ten leaves the bounds
  have few : quantity.exponent + shift ≤ 38 := by
    by_cases zero : quantity.magnitude = 0
    · exact not_lt.mp fun large => allowed (.zero (number_eq_zero zero) large)
    · exact exponent_le isAmount zero
  have fits : exponentFits (quantity.exponent + shift) = true :=
    exponentFits_iff.mpr ⟨by omega, by omega⟩
  have steps : ¬(sizeBound ≤ quantity.magnitude ∨ !exponentFits (quantity.exponent + shift)) := by
    rintro (wide | unfit)
    · exact absurd narrow (not_lt.mpr wide)
    · rw [fits] at unfit
      contradiction
  by_cases below : quantity.exponent + shift < 0
  · exact ⟨_, (if_neg steps).trans (if_pos below)⟩
  · have power : ¬maxPower < (quantity.exponent + shift).natAbs := by
      unfold maxPower
      omega
    have product : ¬sizeBound ≤ quantity.magnitude * 10 ^ (quantity.exponent + shift).natAbs := by
      have size := natAbs_le_of_isAmount isAmount
      rw [rounded_of_nonneg below, natAbs_withSign] at size
      unfold sizeBound
      omega
    exact ⟨_, (if_neg steps).trans ((if_neg below).trans ((if_neg power).trans (if_neg product)))⟩

theorem exists_ok_of_not_refused (least : -2147483648 ≤ quantity.exponent)
    (allowed : ¬quantity.Refused shift (quantity.rounded shift)) :
    ∃ amount, quantity.scaled shift = .ok amount := by
  obtain ⟨size, computed⟩ := exists_size?_eq_some least allowed
  have same := rounded_eq_of_size? computed
  have isAmount : IsAmount (quantity.rounded shift) :=
    not_not.mp fun outside => allowed (.outside outside)
  have above : quantity.rounded shift ≠ -9223372036854775808 := fun least => allowed (.least least)
  have bound : size ≤ 9223372036854775807 := by
    rw [← natAbs_withSign quantity.negative size, ← same]
    unfold IsAmount at isAmount
    omega
  exact ⟨{ val := quantity.rounded shift, least_le := isAmount.1, le_greatest := isAmount.2 },
    scaled_eq_ok_iff.mpr ⟨size, computed, bound, same⟩⟩

/-- A quantity is refused in the four cases and in no other. -/
theorem scaled_eq_error_iff (least : -2147483648 ≤ quantity.exponent) :
    quantity.scaled shift = .error (.quantityOverflow quantity.text) ↔
      quantity.Refused shift (quantity.rounded shift) := by
  constructor
  · intro failed
    by_contra allowed
    obtain ⟨amount, converted⟩ := exists_ok_of_not_refused least allowed
    rw [failed] at converted
    contradiction
  · intro refused
    cases outcome : quantity.scaled shift with
    | ok amount => exact absurd outcome (not_ok_of_refused refused)
    | error fault => rw [eq_quantityOverflow outcome]

/-- Outside the four cases the amount that comes out is the number rounded up. -/
theorem scaled_eq_ok_iff_rounded (least : -2147483648 ≤ quantity.exponent) :
    quantity.scaled shift = .ok amount ↔ amount.val = quantity.rounded shift ∧
      ¬quantity.Refused shift (quantity.rounded shift) := by
  constructor
  · intro converted
    exact ⟨val_eq_rounded converted, fun refused => not_ok_of_refused refused converted⟩
  · rintro ⟨same, allowed⟩
    obtain ⟨other, converted⟩ := exists_ok_of_not_refused least allowed
    rw [Amount.ext (same.trans (val_eq_rounded converted).symm), converted]

/-! ## Texts -/

theorem least_le_exponent (parsed : parse text = .ok quantity) :
    -2147483648 ≤ quantity.exponent := by
  obtain ⟨numeral, -, inRange, rfl⟩ := parse_eq_ok_iff.mp parsed
  exact inRange.exponent.1

/-- The amounts of a text that is read and denotes `x` are `x` and the thousandfold of it, rounded
up, and no others. They come out unless they are refused. -/
theorem val_eq_ceil (parsed : parse text = .ok quantity) :
    ∃ x, (∀ y, Denotes text y ↔ y = x) ∧
      (∀ amount, quantity.value = .ok amount ↔
        amount.val = ⌈x⌉ ∧ ¬quantity.Refused 0 ⌈x⌉) ∧
      ∀ amount, quantity.milliValue = .ok amount ↔
        amount.val = ⌈1000 * x⌉ ∧ ¬quantity.Refused 3 ⌈1000 * x⌉ := by
  have least := least_le_exponent parsed
  refine ⟨quantity.number, fun y => denotes_iff parsed, ?_, ?_⟩
  · intro amount
    rw [← rounded_zero]
    exact scaled_eq_ok_iff_rounded least
  · intro amount
    rw [← rounded_three]
    exact scaled_eq_ok_iff_rounded least

end Headroom.Quantity

namespace Headroom.Sample

/-- One and a half, below zero. -/
def minusOneAndHalf : Quantity where
  text := "-1.5"
  negative := true
  mantissa := 15
  exponent := -1
  binary := 0

theorem val_eq_ceil_minusOneAndHalf :
    ∃ x : ℚ, Denotes "-1.5" x ∧ ⌈x⌉ = -1 ∧ ⌈1000 * x⌉ = -1500 := by
  have parsed : Quantity.parse "-1.5" = .ok minusOneAndHalf := rfl
  obtain ⟨x, denotes, value, milliValue⟩ := Quantity.val_eq_ceil parsed
  obtain ⟨units, -⟩ := (value { val := -1 }).mp rfl
  obtain ⟨millis, -⟩ := (milliValue { val := -1500 }).mp rfl
  exact ⟨x, (denotes x).mpr rfl, units.symm, millis.symm⟩

end Headroom.Sample

namespace Headroom.Quantity

variable {quantity : Quantity} {text : String}

/-- A text that is read and denotes `x` is refused as out of range if the amount, `x` or the
thousandfold of it rounded up, is out of range, and also if it is the smallest one, if it is zero
with a large exponent, or if the digits times the power of two do not fit. -/
theorem refused_iff (parsed : parse text = .ok quantity) :
    ∃ x, (∀ y, Denotes text y ↔ y = x) ∧
      (quantity.value = .error (.quantityOverflow text) ↔ quantity.Refused 0 ⌈x⌉) ∧
      (quantity.milliValue = .error (.quantityOverflow text) ↔ quantity.Refused 3 ⌈1000 * x⌉) ∧
      ∀ fault, quantity.value = .error fault ∨ quantity.milliValue = .error fault →
        fault = .quantityOverflow text := by
  have least := least_le_exponent parsed
  refine ⟨quantity.number, fun y => denotes_iff parsed, ?_, ?_, ?_⟩
  · rw [← text_eq parsed, ← rounded_zero]
    exact scaled_eq_error_iff least
  · rw [← text_eq parsed, ← rounded_three]
    exact scaled_eq_error_iff least
  · rw [← text_eq parsed]
    rintro fault (failed | failed)
    · exact eq_quantityOverflow failed
    · exact eq_quantityOverflow failed

end Headroom.Quantity

namespace Headroom.Sample

/-- The smallest amount. -/
def smallest : Quantity where
  text := "-9223372036854775808"
  negative := true
  mantissa := 9223372036854775808
  exponent := 0
  binary := 0

/-- Zero, times a power of ten out of bounds. -/
def idleZero : Quantity where
  text := "0e39"
  negative := false
  mantissa := 0
  exponent := 39
  binary := 0

/-- One exbi with many zeros behind the point. -/
def longExbi : Quantity where
  text := "1.000000000000000000000Ei"
  negative := false
  mantissa := 1000000000000000000000
  exponent := -21
  binary := 60

theorem rounded_smallest : smallest.rounded 0 = -9223372036854775808 :=
  Quantity.rounded_of_nonneg (by decide)

theorem rounded_idleZero : idleZero.rounded 0 = 0 :=
  (Quantity.rounded_of_nonneg (by decide)).trans (by decide)

theorem rounded_longExbi : longExbi.rounded 0 = 1152921504606846976 := by
  rw [Quantity.rounded_zero]
  norm_num [Quantity.number, longExbi]

theorem refused_iff_smallest : Quantity.parse "-9223372036854775808" = .ok smallest ∧
    smallest.Refused 0 (smallest.rounded 0) := by
  have parsed : Quantity.parse "-9223372036854775808" = .ok smallest := rfl
  obtain ⟨x, denotes, value, -⟩ := Quantity.refused_iff parsed
  obtain rfl := (denotes _).mp ((Quantity.denotes_iff parsed).mpr rfl)
  rw [Quantity.rounded_zero]
  exact ⟨parsed, value.mp rfl⟩

/-- A quantity that is refused as out of range though its number rounds up to an amount. -/
structure Misjudged (quantity : Quantity) : Prop where
  parsed : Quantity.parse quantity.text = .ok quantity
  denotes : Denotes quantity.text quantity.number
  isAmount : Quantity.IsAmount ⌈quantity.number⌉
  refused : quantity.value = .error (.quantityOverflow quantity.text)

theorem Misjudged.of_rounded {quantity : Quantity}
    (isAmount : Quantity.IsAmount (quantity.rounded 0))
    (parsed : Quantity.parse quantity.text = .ok quantity)
    (refused : quantity.value = .error (.quantityOverflow quantity.text)) : Misjudged quantity where
  parsed := parsed
  denotes := (Quantity.denotes_iff parsed).mpr rfl
  isAmount := quantity.rounded_zero ▸ isAmount
  refused := refused

/-- Each of the three cases refuses amounts that are in range. -/
theorem misjudged_amounts : Misjudged smallest ∧ Misjudged idleZero ∧ Misjudged longExbi := by
  refine ⟨.of_rounded ?_ rfl rfl, .of_rounded ?_ rfl rfl, .of_rounded ?_ rfl rfl⟩
  · rw [rounded_smallest]
    exact ⟨by decide, by decide⟩
  · rw [rounded_idleZero]
    exact ⟨by decide, by decide⟩
  · rw [rounded_longExbi]
    exact ⟨by decide, by decide⟩

end Headroom.Sample
