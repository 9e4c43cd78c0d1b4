import Headroom.Proofs.Quantity.Conversion
/-!
# Quantities of amounts

An amount is written as digits without a point, in front of any suffix. What is read of such a text
is put together from the amount and the suffix without reading (`parse_text_append`), and the number
that is written is their product (`number_suffixed`). The quantities that are made of units and of
thousandths are two cases of this (`made_of_amount_eq_read`).
-/

namespace Headroom

open Text (Digit Sign)

namespace Numeral

variable {sign : Sign} {digits : List Digit} {suffix : Suffix} {some_digit : digits ≠ []}

/-- A numeral without a point. -/
def pointless (sign : Sign) (digits : List Digit) (suffix : Suffix) (some_digit : digits ≠ []) :
    Numeral where
  sign := sign
  whole := digits
  fraction := none
  suffix := suffix
  some_digit := by rwa [Option.getD_none, List.append_nil]

theorem chars_pointless : (pointless sign digits suffix some_digit).chars =
    (sign.chars ++ Digit.chars digits) ++ suffix.chars := by
  show sign.chars ++ ((Digit.chars digits ++ []) ++ suffix.chars) = _
  rw [List.append_nil, List.append_assoc]

theorem inRange_pointless (few : digits.length ≤ 36)
    (fits : Quantity.ExponentFits suffix.scale.ten) :
    (pointless sign digits suffix some_digit).InRange where
  digits := (List.length_dropWhile_le _ _).trans few
  suffix := fits
  exponent := by
    show Quantity.ExponentFits (suffix.scale.ten - 0)
    rwa [Int.sub_zero]

theorem quantity_pointless : (pointless sign digits suffix some_digit).quantity =
    { text := String.ofList ((sign.chars ++ Digit.chars digits) ++ suffix.chars),
      negative := sign = .minus, mantissa := Digit.number digits, exponent := suffix.scale.ten,
      binary := suffix.scale.two } := by
  have exponent : (pointless sign digits suffix some_digit).exponent = suffix.scale.ten :=
    Int.sub_zero _
  have row : (pointless sign digits suffix some_digit).digits = digits := List.append_nil digits
  rw [quantity, chars_pointless, exponent, row]
  rfl

end Numeral

namespace Quantity

/-- What is read of a whole number with a suffix behind it. -/
def suffixed (count : Amount) (suffix : Suffix) : Quantity where
  text := count.text ++ String.ofList suffix.chars
  negative := count.val < 0
  mantissa := count.val.natAbs
  exponent := suffix.scale.ten
  binary := suffix.scale.two

/-- An amount with a suffix behind it is read as it is meant. -/
theorem parse_text_append (amount : Amount) (suffix : Suffix)
    (fits : ExponentFits suffix.scale.ten) :
    parse (amount.text ++ String.ofList suffix.chars) = .ok (suffixed amount suffix) := by
  obtain ⟨digits, some_digit, written, same, short⟩ := Text.exists_chars_eq_ofInt amount.val
  have few : digits.length ≤ 36 := by
    have low := amount.least_le
    have high := amount.le_greatest
    exact short 36 (by decide) (by omega)
  refine parse_eq_ok_iff.mpr ⟨.pointless (.ofInt amount.val) digits suffix some_digit, ?_,
    Numeral.inRange_pointless few fits, ?_⟩
  · rw [Numeral.chars_pointless, written, String.toList_append, String.toList_ofList, Amount.text,
      String.toList_ofList]
  · rw [Numeral.quantity_pointless, written, same, String.ofList_append]
    simp only [suffixed, Sign.ofInt_eq_minus_iff, Amount.text]

theorem withSign_suffixed (count : Amount) (suffix : Suffix) :
    withSign (suffixed count suffix).negative (suffixed count suffix).magnitude =
      count.val * 2 ^ suffix.scale.two := by
  show withSign (count.val < 0) (count.val.natAbs * 2 ^ suffix.scale.two) = _
  by_cases below : count.val < 0
  · have size : (count.val.natAbs : Int) = -count.val := by omega
    simp [withSign, below, size]
  · have size : (count.val.natAbs : Int) = count.val := by omega
    simp [withSign, below, size]

/-- The sign and the size of an amount are the amount again. -/
theorem number_suffixed (count : Amount) (suffix : Suffix) :
    (suffixed count suffix).number = count.val * suffix.factor := by
  have unshifted := number_mul_pow (suffixed count suffix) 0
  rw [pow_zero, mul_one, withSign_suffixed] at unshifted
  calc (suffixed count suffix).number
      = (count.val * 2 ^ suffix.scale.two : Int) * 10 ^ (suffix.scale.ten + (0 : Nat)) := unshifted
    _ = count.val * (10 ^ suffix.scale.ten * 2 ^ suffix.scale.two) := by
        rw [Int.natCast_zero, Int.add_zero]
        push_cast
        ring
    _ = count.val * suffix.factor := by rw [Suffix.factor_eq]

/-! ## Units and thousandths -/

theorem ofUnits_eq_suffixed (amount : Amount) : ofUnits amount = suffixed amount .omitted := by
  have bare : amount.text ++ String.ofList Suffix.omitted.chars = amount.text :=
    String.append_empty
  rw [suffixed, bare]
  rfl

theorem ofMillis_eq_suffixed (amount : Amount) :
    ofMillis amount = suffixed amount (.multiple .milli) := rfl

theorem parse_text_ofUnits (amount : Amount) :
    parse (ofUnits amount).text = .ok (ofUnits amount) := by
  rw [ofUnits_eq_suffixed]
  exact parse_text_append amount .omitted (by decide)

theorem parse_text_ofMillis (amount : Amount) :
    parse (ofMillis amount).text = .ok (ofMillis amount) :=
  parse_text_append amount (.multiple .milli) (by decide)

theorem number_ofUnits (amount : Amount) : (ofUnits amount).number = amount.val := by
  rw [ofUnits_eq_suffixed, number_suffixed, Suffix.factor, mul_one]

theorem number_ofMillis (amount : Amount) : (ofMillis amount).number = amount.val / 1000 := by
  rw [ofMillis_eq_suffixed, number_suffixed, Suffix.factor, Multiple.factor]
  ring

/-- A quantity that is made of an amount is the one that is read from its own text, in all that is
stored and for every amount, the smallest one included. The text denotes the amount, in units or in
thousandths. -/
theorem made_of_amount_eq_read (amount : Amount) :
    (parse (ofUnits amount).text = .ok (ofUnits amount) ∧
      ∀ x, Denotes (ofUnits amount).text x ↔ x = amount.val) ∧
    parse (ofMillis amount).text = .ok (ofMillis amount) ∧
      ∀ x, Denotes (ofMillis amount).text x ↔ x = amount.val / 1000 := by
  have units := parse_text_ofUnits amount
  have millis := parse_text_ofMillis amount
  refine ⟨⟨units, ?_⟩, millis, ?_⟩
  · intro x
    rw [denotes_iff units, number_ofUnits]
  · intro x
    rw [denotes_iff millis, number_ofMillis]

example : parse "-9223372036854775808m" = .ok (ofMillis .least) := rfl

end Quantity

end Headroom
