import Headroom.Quantity.Scale
import Headroom.Proofs.Except
import Headroom.Proofs.Quantity.Numeral
import Mathlib.Data.List.TakeWhile
/-!
# What is read as a quantity

The reader accepts the texts of the numerals that are in range, and no others. What it stores are
the sign, the row of all digits and the powers of ten and two of that numeral
(`parse_eq_ok_iff`), so the stored quantity is the number that was written (`denotes_iff`).
-/

namespace Headroom

open Text (Digit Sign)

namespace Quantity

variable {text : List Char} {scale : Scale} {decimal : Decimal} {whole : List Digit}
  {fraction : Option (List Digit)}

/-! ## Signs -/

theorem exists_sign_append (text : List Char) :
    ∃ sign : Sign, sign.chars ++ (splitSign text).2 = text := by
  unfold splitSign
  split
  · exact ⟨.minus, rfl⟩
  · exact ⟨.plus, rfl⟩
  · exact ⟨.omitted, rfl⟩

/-! ## Suffixes -/

/-- Whether an exponent of ten is read. -/
abbrev ExponentFits (exponent : Int) : Prop := -2147483648 ≤ exponent ∧ exponent ≤ 2147483647

theorem exponentFits_iff {exponent : Int} :
    exponentFits exponent = true ↔ ExponentFits exponent := by
  simp [exponentFits, ExponentFits]

/-- Behind a character with a digit somewhere after it, only an exponent can be read. -/
theorem readSuffix?_cons {c : Char} (digital : ∃ d ∈ text, d.isDigit = true) :
    readSuffix? (c :: text) =
      if c = 'e' ∨ c = 'E' then
        (Text.readSigned? (-2147483648) 2147483647 text).map fun ten => { ten, two := 0 }
      else none := by
  obtain ⟨d, member, isDigit⟩ := digital
  unfold readSuffix?
  split
  case h_17 => simp_all
  all_goals
    simp_all

theorem readSuffix?_chars {suffix : Suffix} (fits : ExponentFits suffix.scale.ten) :
    readSuffix? suffix.chars = some suffix.scale := by
  cases suffix with
  | omitted => rfl
  | multiple letters => cases letters <;> rfl
  | exponent capital sign digits some_digit =>
      obtain ⟨digit, others, rfl⟩ := List.exists_cons_of_ne_nil some_digit
      have digital : ∃ d ∈ sign.chars ++ Digit.chars (digit :: others), d.isDigit = true :=
        ⟨digit.char, List.mem_append_right _ List.mem_cons_self, Digit.isDigit_char digit⟩
      have marked (capital : Bool) :
          (if capital then 'E' else 'e') = 'e' ∨ (if capital then 'E' else 'e') = 'E' := by
        cases capital <;> decide
      rw [Suffix.chars, readSuffix?_cons digital, if_pos (marked capital),
        Text.readSigned?_eq_some_iff.mpr ⟨⟨sign, digit :: others, some_digit, rfl, rfl⟩, fits⟩]
      rfl

theorem exists_suffix_of_multiple
    (known : ∃ letters : Multiple, letters.chars = text ∧ letters.scale = scale) :
    ∃ suffix : Suffix, suffix.chars = text ∧ suffix.scale = scale ∧ ExponentFits scale.ten := by
  obtain ⟨letters, rfl, rfl⟩ := known
  exact ⟨.multiple letters, rfl, rfl, by cases letters <;> decide⟩

theorem readSuffix?_eq_some_iff : readSuffix? text = some scale ↔
    ∃ suffix : Suffix, suffix.chars = text ∧ suffix.scale = scale ∧ ExponentFits scale.ten := by
  constructor
  · intro found
    unfold readSuffix? at found
    split at found
    case h_1 =>
      cases found
      exact ⟨.omitted, rfl, rfl, by decide⟩
    case h_17 c exponent _ =>
      rw [Option.ite_none_right_eq_some, Option.map_eq_some_iff] at found
      obtain ⟨mark, ten, read, rfl⟩ := found
      obtain ⟨⟨sign, digits, some_digit, rfl, rfl⟩, fits⟩ := Text.readSigned?_eq_some_iff.mp read
      rcases mark with rfl | rfl
      · exact ⟨.exponent false sign digits some_digit, rfl, rfl, fits⟩
      · exact ⟨.exponent true sign digits some_digit, rfl, rfl, fits⟩
    -- the letters of the multiples, one case each
    all_goals
      cases found
      exact exists_suffix_of_multiple (by decide)
  · rintro ⟨suffix, rfl, rfl, fits⟩
    exact readSuffix?_chars fits

/-! ## Digits with a point -/

theorem dropWhile_chars (digits : List Digit) :
    (Digit.chars digits).dropWhile (· = '0') = Digit.chars (digits.dropWhile (· = 0)) := by
  have zero : ∀ digit : Digit, decide (digit.char = '0') = decide (digit = 0) := by decide
  rw [Digit.chars, List.dropWhile_map]
  congr 2
  funext digit
  exact zero digit

theorem chars_append (whole decimals : List Digit) :
    Digit.chars whole ++ Digit.chars decimals = Digit.chars (whole ++ decimals) :=
  List.map_append.symm

theorem length_chars (digits : List Digit) : (Digit.chars digits).length = digits.length :=
  List.length_map _

theorem parts_pointed (whole : List Digit) (fraction : Option (List Digit)) :
    (Text.splitFirst? '.' (Numeral.pointed whole fraction)).getD
        (Numeral.pointed whole fraction, []) =
      (Digit.chars whole, Digit.chars (fraction.getD [])) := by
  rw [Numeral.splitFirst?_pointed]
  cases fraction with
  | some digits => rfl
  | none =>
      show (Digit.chars whole ++ [], []) = (Digit.chars whole, [])
      rw [List.append_nil]

theorem readDecimal?_pointed (some_digit : whole ++ fraction.getD [] ≠ []) :
    readDecimal? (Numeral.pointed whole fraction) =
      if (whole.dropWhile (· = 0)).length + (fraction.getD []).length ≤ 36 then
        some { mantissa := Digit.number (whole ++ fraction.getD []),
               places := (fraction.getD []).length }
      else none := by
  have present : ¬(Digit.chars whole = [] ∧ Digit.chars (fraction.getD []) = []) := by
    rwa [← List.append_eq_nil_iff, chars_append, Digit.chars, List.map_eq_nil_iff]
  rw [readDecimal?, parts_pointed]
  simp only [if_neg present, if_neg (Numeral.point_notMem_chars _), dropWhile_chars, length_chars,
    chars_append, Digit.digitsValue_chars, maxDigits]
  split <;> split <;> first | rfl | omega

theorem exists_chars_of_numbered (numbered : Numbered text) (pointless : '.' ∉ text) :
    ∃ digits, Digit.chars digits = text := by
  refine Digit.exists_chars_eq_iff.mpr fun c member => ?_
  have numeric := numbered c member
  rw [isNumberChar, Bool.or_eq_true, decide_eq_true_eq] at numeric
  rcases numeric with digital | rfl
  · exact digital
  · exact absurd member pointless

theorem exists_pointed (numbered : Numbered text) (found : readDecimal? text = some decimal) :
    ∃ whole fraction, Numeral.pointed whole fraction = text ∧ whole ++ fraction.getD [] ≠ [] := by
  cases split : Text.splitFirst? '.' text with
  | none =>
      obtain ⟨whole, rfl⟩ :=
        exists_chars_of_numbered numbered (Text.splitFirst?_eq_none_iff.mp split)
      refine ⟨whole, none, List.append_nil _, ?_⟩
      rintro empty
      rw [Option.getD_none, List.append_nil] at empty
      rw [empty] at found
      contradiction
  | some parts =>
      obtain ⟨before, after⟩ := parts
      obtain ⟨rfl, pointless⟩ := Text.splitFirst?_eq_some_iff.mp split
      simp only [readDecimal?, split, Option.getD_some, Option.ite_none_left_eq_some] at found
      obtain ⟨present, pointless', -⟩ := found
      obtain ⟨whole, rfl⟩ := exists_chars_of_numbered
        (fun c member => numbered c (List.mem_append_left _ member)) pointless
      obtain ⟨decimals, rfl⟩ := exists_chars_of_numbered
        (fun c member => numbered c (List.mem_append_right _ (List.mem_cons_of_mem _ member)))
        pointless'
      refine ⟨whole, some decimals, rfl, ?_⟩
      rintro empty
      obtain ⟨rfl, rfl⟩ := List.append_eq_nil_iff.mp empty
      exact present ⟨rfl, rfl⟩

end Quantity

/-! ## Quantities -/

namespace Numeral

/-- The quantity that is stored for a numeral. -/
def quantity (numeral : Numeral) : Quantity where
  text := String.ofList numeral.chars
  negative := numeral.sign = .minus
  mantissa := Digit.number numeral.digits
  exponent := numeral.exponent
  binary := numeral.suffix.scale.two

end Numeral

namespace Quantity

variable {text : String} {quantity : Quantity}

theorem ofList_chars_ne_empty (numeral : Numeral) : String.ofList numeral.chars ≠ "" := by
  rw [ne_eq, String.ofList_eq_empty_iff, Numeral.chars, List.append_eq_nil_iff,
    List.append_eq_nil_iff]
  intro empty
  exact Numeral.pointed_ne_nil numeral.some_digit empty.2.1

theorem read_chars {numeral : Numeral} (inRange : numeral.InRange) :
    read (String.ofList numeral.chars) = .ok numeral.quantity := by
  have numbered := Numeral.numbered_pointed numeral.whole numeral.fraction
  have unnumbered := numeral.suffix.unnumbered_chars
  have number : readDecimal? (Numeral.pointed numeral.whole numeral.fraction) =
      some { mantissa := Digit.number numeral.digits, places := numeral.decimals.length } :=
    (readDecimal?_pointed numeral.some_digit).trans (if_pos inRange.digits)
  rw [read, if_neg (ofList_chars_ne_empty numeral), String.toList_ofList]
  rw [Numeral.chars, splitSign_append _ numeral.unsigned_number]
  simp only [numbered.takeWhile_append unnumbered, numbered.dropWhile_append unnumbered, number,
    readSuffix?_chars inRange.suffix]
  exact if_pos (exponentFits_iff.mpr inRange.exponent)

theorem exists_numeral (found : read text = .ok quantity) :
    ∃ numeral : Numeral, numeral.chars = text.toList ∧ numeral.InRange := by
  obtain ⟨sign, signed⟩ := exists_sign_append text.toList
  unfold read at found
  split at found
  · contradiction
  cases parts : splitSign text.toList with | mk negative rest =>
  simp only [parts] at found signed
  split at found
  · contradiction
  next decimal number =>
  split at found
  · contradiction
  next scale behind =>
  split at found
  case isFalse => contradiction
  next fits =>
  -- each part that was read is the text of its part of the numeral
  have numbered : Numbered (rest.takeWhile isNumberChar) :=
    fun c member => List.mem_takeWhile_imp member
  obtain ⟨whole, fraction, pointed, some_digit⟩ := exists_pointed numbered number
  obtain ⟨suffix, written, rfl, suffixFits⟩ := readSuffix?_eq_some_iff.mp behind
  rw [← pointed, readDecimal?_pointed some_digit, Option.ite_none_right_eq_some] at number
  obtain ⟨short, same⟩ := number
  cases same
  refine ⟨⟨sign, whole, fraction, suffix, some_digit⟩, ?_,
    { digits := short, suffix := suffixFits, exponent := exponentFits_iff.mp fits }⟩
  show sign.chars ++ (Numeral.pointed whole fraction ++ suffix.chars) = text.toList
  rw [pointed, written, List.takeWhile_append_dropWhile, signed]

theorem parse_eq_ok_iff : parse text = .ok quantity ↔
    ∃ numeral : Numeral, numeral.chars = text.toList ∧ numeral.InRange ∧
      numeral.quantity = quantity := by
  rw [parse, mapError_eq_ok_iff]
  constructor
  · intro found
    obtain ⟨numeral, written, inRange⟩ := exists_numeral found
    have stored := read_chars inRange
    rw [written, String.ofList_toList, found] at stored
    exact ⟨numeral, written, inRange, (Except.ok.inj stored).symm⟩
  · rintro ⟨numeral, written, inRange, rfl⟩
    have stored := read_chars inRange
    rwa [written, String.ofList_toList] at stored

/-! ## The number that is stored -/

/-- The number that a quantity stands for. -/
def number (quantity : Quantity) : ℚ :=
  (if quantity.negative then -1 else 1) * quantity.mantissa * 10 ^ quantity.exponent *
    2 ^ quantity.binary

end Quantity

theorem Multiple.factor_eq (letters : Multiple) :
    letters.factor = 10 ^ letters.scale.ten * 2 ^ letters.scale.two := by
  cases letters <;> norm_num [factor, scale]

theorem Suffix.factor_eq (suffix : Suffix) :
    suffix.factor = 10 ^ suffix.scale.ten * 2 ^ suffix.scale.two := by
  cases suffix with
  | omitted => norm_num [factor, scale]
  | multiple letters => exact letters.factor_eq
  | exponent capital sign digits some_digit => rw [factor, scale, pow_zero, mul_one]

namespace Numeral

theorem ite_sign (numeral : Numeral) :
    (if numeral.quantity.negative then -1 else 1 : ℚ) = numeral.sign.factor := by
  unfold quantity
  cases numeral.sign <;> simp [Sign.factor]

/-- The leading zeros of the whole part do not count. -/
theorem InRange.number_lt {numeral : Numeral} (inRange : numeral.InRange) :
    Digit.number numeral.digits < Quantity.sizeBound := by
  have significant := Digit.number_lt (numeral.whole.dropWhile (· = 0) ++ numeral.decimals)
  rw [Digit.number_append, Digit.number_dropWhile, ← Digit.number_append,
    List.length_append] at significant
  calc Digit.number numeral.digits
      < 10 ^ ((numeral.whole.dropWhile (· = 0)).length + numeral.decimals.length) := significant
    _ ≤ 10 ^ 36 := Nat.pow_le_pow_right (by decide) inRange.digits
    _ < Quantity.sizeBound := by decide

/-- What is stored for a numeral is the number that it denotes. -/
theorem number_quantity (numeral : Numeral) : numeral.quantity.number = numeral.value := by
  have ten : (10 : ℚ) ≠ 0 := by norm_num
  have places : (10 : ℚ) ^ numeral.decimals.length ≠ 0 := pow_ne_zero _ ten
  calc numeral.quantity.number
      = numeral.sign.factor * Digit.number numeral.digits * 10 ^ numeral.exponent *
          2 ^ numeral.suffix.scale.two := by rw [Quantity.number, ite_sign]; rfl
    _ = numeral.sign.factor *
          (Digit.number numeral.whole * 10 ^ numeral.decimals.length +
            Digit.number numeral.decimals) *
          (10 ^ numeral.suffix.scale.ten / 10 ^ numeral.decimals.length) *
          2 ^ numeral.suffix.scale.two := by
        rw [digits, Digit.number_append, exponent, zpow_sub₀ ten, zpow_natCast]
        push_cast
        rfl
    _ = numeral.value := by
        rw [value, Suffix.factor_eq]
        field_simp

end Numeral

/-- A text writes a number. -/
def Denotes (text : String) (x : ℚ) : Prop :=
  ∃ numeral : Numeral, numeral.chars = text.toList ∧ numeral.value = x

namespace Quantity

variable {text : String} {quantity : Quantity}

theorem quantity_eq {numeral : Numeral} (parsed : parse text = .ok quantity)
    (written : numeral.chars = text.toList) : numeral.quantity = quantity ∧ numeral.InRange := by
  obtain ⟨other, written', inRange, same⟩ := parse_eq_ok_iff.mp parsed
  rw [← written] at written'
  obtain rfl := Numeral.chars_injective written'
  exact ⟨same, inRange⟩

/-- A text that is read denotes the number that is stored, and nothing else. -/
theorem denotes_iff (parsed : parse text = .ok quantity) {x : ℚ} :
    Denotes text x ↔ x = quantity.number := by
  constructor
  · rintro ⟨numeral, written, rfl⟩
    rw [← (quantity_eq parsed written).1, numeral.number_quantity]
  · rintro rfl
    obtain ⟨numeral, written, -, rfl⟩ := parse_eq_ok_iff.mp parsed
    exact ⟨numeral, written, numeral.number_quantity.symm⟩

theorem text_eq (parsed : parse text = .ok quantity) : quantity.text = text := by
  obtain ⟨numeral, written, -, rfl⟩ := parse_eq_ok_iff.mp parsed
  rw [Numeral.quantity, written, String.ofList_toList]

/-- The texts that are read are those of the numerals in range. A text is written by one numeral at
most, and what is stored for it are its sign, the number of its digits, which is added up without
overflow, and its exponents: the number that it denotes. -/
theorem parse_grammar (text : String) :
    ((∃ quantity, parse text = .ok quantity) ↔
        ∃ numeral : Numeral, numeral.chars = text.toList ∧ numeral.InRange) ∧
      (∀ numeral other : Numeral, numeral.chars = text.toList → other.chars = text.toList →
        numeral = other) ∧
      ∀ (quantity : Quantity) (numeral : Numeral), parse text = .ok quantity →
        numeral.chars = text.toList →
          quantity.text = text ∧
          quantity.negative = decide (numeral.sign = .minus) ∧
          Text.digitsValueBelow? sizeBound (Digit.chars numeral.digits) =
            some quantity.mantissa ∧
          quantity.exponent = numeral.exponent ∧
          quantity.binary = numeral.suffix.scale.two ∧
          quantity.number = numeral.value := by
  refine ⟨?_, ?_, ?_⟩
  · simp only [parse_eq_ok_iff]
    exact ⟨fun ⟨_, numeral, written, inRange, _⟩ => ⟨numeral, written, inRange⟩,
      fun ⟨numeral, written, inRange⟩ => ⟨_, numeral, written, inRange, rfl⟩⟩
  · intro numeral other written written'
    exact Numeral.chars_injective (written.trans written'.symm)
  · intro quantity numeral parsed written
    obtain ⟨rfl, inRange⟩ := quantity_eq parsed written
    have added : Text.digitsValue (Digit.chars numeral.digits) < sizeBound := by
      rw [Digit.digitsValue_chars]
      exact inRange.number_lt
    refine ⟨text_eq parsed, rfl, ?_, rfl, rfl, numeral.number_quantity⟩
    rw [Text.digitsValueBelow?_eq_some added, Digit.digitsValue_chars, Numeral.quantity]

end Quantity

namespace Sample

/-- Minus a half times a hundred. -/
def minusFifty : Numeral where
  sign := .minus
  whole := [0]
  fraction := some [5]
  suffix := .exponent true .omitted [2] (by decide)
  some_digit := by decide

theorem parse_grammar_minusFifty : minusFifty.chars = "-0.5E2".toList ∧ minusFifty.InRange ∧
    ∃ quantity, Quantity.parse "-0.5E2" = .ok quantity ∧ quantity.mantissa = 5 ∧
      quantity.exponent = 1 ∧ quantity.number = minusFifty.value := by
  have written : minusFifty.chars = "-0.5E2".toList := by decide
  have inRange : minusFifty.InRange :=
    { digits := by decide, suffix := by decide, exponent := by decide }
  obtain ⟨quantity, parsed⟩ := (Quantity.parse_grammar "-0.5E2").1.mpr ⟨_, written, inRange⟩
  obtain ⟨-, -, mantissa, exponent, -, number⟩ :=
    (Quantity.parse_grammar "-0.5E2").2.2 quantity minusFifty parsed written
  exact ⟨written, inRange, quantity, parsed, (Option.some.inj mantissa).symm, exponent, number⟩

end Sample

end Headroom
