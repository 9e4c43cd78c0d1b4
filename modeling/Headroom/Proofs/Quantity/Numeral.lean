import Headroom.Quantity.Basic
import Headroom.Proofs.Text.Digits
import Headroom.Proofs.Text.Split
import Mathlib.Algebra.Order.Field.Rat
import Mathlib.Data.Fintype.Defs
import Mathlib.Tactic.FieldSimp
/-!
# Numerals

The grammar of quantities as syntax trees. A numeral is a sign, digits with or without a point among
them, and a suffix: nothing, the letters of a multiple, or an exponent. Each numeral is written in
one way (`chars`) and denotes one rational number (`value`), and no two of them are written alike
(`chars_injective`). Which of them can be kept as a quantity is a matter of their size only
(`InRange`).
-/

namespace Headroom

open Text (Digit Sign)

/-- The factors that have letters of their own. -/
inductive Multiple where
  | kibi | mebi | gibi | tebi | pebi | exbi
  | nano | micro | milli | kilo | mega | giga | tera | peta | exa
deriving DecidableEq

namespace Multiple

/-- All multiples. -/
def all : List Multiple :=
  [kibi, mebi, gibi, tebi, pebi, exbi, nano, micro, milli, kilo, mega, giga, tera, peta, exa]

instance : Fintype Multiple where
  elems := ⟨all, by decide⟩
  complete multiple := by cases multiple <;> decide

/-- The letters of a multiple. -/
def chars : Multiple → List Char
  | kibi => ['K', 'i']
  | mebi => ['M', 'i']
  | gibi => ['G', 'i']
  | tebi => ['T', 'i']
  | pebi => ['P', 'i']
  | exbi => ['E', 'i']
  | nano => ['n']
  | micro => ['u']
  | milli => ['m']
  | kilo => ['k']
  | mega => ['M']
  | giga => ['G']
  | tera => ['T']
  | peta => ['P']
  | exa => ['E']

/-- The factor that a multiple stands for. -/
def factor : Multiple → ℚ
  | kibi => 2 ^ 10
  | mebi => 2 ^ 20
  | gibi => 2 ^ 30
  | tebi => 2 ^ 40
  | pebi => 2 ^ 50
  | exbi => 2 ^ 60
  | nano => 1 / 10 ^ 9
  | micro => 1 / 10 ^ 6
  | milli => 1 / 10 ^ 3
  | kilo => 10 ^ 3
  | mega => 10 ^ 6
  | giga => 10 ^ 9
  | tera => 10 ^ 12
  | peta => 10 ^ 15
  | exa => 10 ^ 18

/-- The powers of ten and two in the factor. -/
def scale : Multiple → Quantity.Scale
  | kibi => { ten := 0, two := 10 }
  | mebi => { ten := 0, two := 20 }
  | gibi => { ten := 0, two := 30 }
  | tebi => { ten := 0, two := 40 }
  | pebi => { ten := 0, two := 50 }
  | exbi => { ten := 0, two := 60 }
  | nano => { ten := -9, two := 0 }
  | micro => { ten := -6, two := 0 }
  | milli => { ten := -3, two := 0 }
  | kilo => { ten := 3, two := 0 }
  | mega => { ten := 6, two := 0 }
  | giga => { ten := 9, two := 0 }
  | tera => { ten := 12, two := 0 }
  | peta => { ten := 15, two := 0 }
  | exa => { ten := 18, two := 0 }

theorem chars_injective : Function.Injective chars := by
  unfold Function.Injective
  decide

end Multiple

/-- What may stand behind the digits of a numeral. -/
inductive Suffix where
  | omitted
  | multiple (multiple : Multiple)
  | exponent (capital : Bool) (sign : Sign) (digits : List Digit) (some_digit : digits ≠ [])

namespace Suffix

/-- A suffix as it is written. -/
def chars : Suffix → List Char
  | omitted => []
  | multiple letters => letters.chars
  | exponent capital sign digits _ =>
      (if capital then 'E' else 'e') :: (sign.chars ++ Digit.chars digits)

/-- The factor that a suffix stands for. -/
def factor : Suffix → ℚ
  | omitted => 1
  | multiple letters => letters.factor
  | exponent _ sign digits _ => 10 ^ (sign.factor * Digit.number digits)

/-- The powers of ten and two in the factor. -/
def scale : Suffix → Quantity.Scale
  | omitted => { ten := 0, two := 0 }
  | multiple letters => letters.scale
  | exponent _ sign digits _ => { ten := sign.factor * Digit.number digits, two := 0 }

end Suffix

/-- The digits of a number as they are written, with a point if there is a fraction. -/
def Numeral.pointed (whole : List Digit) (fraction : Option (List Digit)) : List Char :=
  Digit.chars whole ++ fraction.elim [] fun digits => '.' :: Digit.chars digits

/-- A number as it may be written. -/
structure Numeral where
  sign : Sign
  whole : List Digit
  /-- The digits after the point, if there is a point. -/
  fraction : Option (List Digit)
  suffix : Suffix
  some_digit : whole ++ fraction.getD [] ≠ []

namespace Numeral

/-- The digits after the point. -/
def decimals (numeral : Numeral) : List Digit := numeral.fraction.getD []

/-- All digits, without the point. -/
def digits (numeral : Numeral) : List Digit := numeral.whole ++ numeral.decimals

/-- The power of ten that the row of all digits is multiplied by. -/
def exponent (numeral : Numeral) : Int := numeral.suffix.scale.ten - numeral.decimals.length

/-- A numeral as it is written. -/
def chars (numeral : Numeral) : List Char :=
  numeral.sign.chars ++ (pointed numeral.whole numeral.fraction ++ numeral.suffix.chars)

/-- The number that a numeral denotes. -/
def value (numeral : Numeral) : ℚ :=
  numeral.sign.factor *
    (Digit.number numeral.whole + Digit.number numeral.decimals / 10 ^ numeral.decimals.length) *
      numeral.suffix.factor

/-- Whether a numeral is short enough and its exponents are small enough. -/
structure InRange (numeral : Numeral) : Prop where
  digits : (numeral.whole.dropWhile (· = 0)).length + numeral.decimals.length ≤ 36
  suffix : -2147483648 ≤ numeral.suffix.scale.ten ∧ numeral.suffix.scale.ten ≤ 2147483647
  exponent : -2147483648 ≤ numeral.exponent ∧ numeral.exponent ≤ 2147483647

end Numeral

/-! ## Where the parts of a text end -/

/-- A text does not begin with a sign. -/
def Unsigned (text : List Char) : Prop := ∀ c ∈ text.head?, c ≠ '-' ∧ c ≠ '+'

/-- A text has only digits and points. -/
def Numbered (text : List Char) : Prop := ∀ c ∈ text, Quantity.isNumberChar c = true

/-- A text does not begin with a digit or a point. -/
def Unnumbered (text : List Char) : Prop := ∀ c ∈ text.head?, Quantity.isNumberChar c = false

variable {rest other text : List Char}

theorem numbered_chars (digits : List Digit) : Numbered (Digit.chars digits) := by
  intro c member
  simp [Quantity.isNumberChar, Digit.all_isDigit_chars digits c member]

theorem Numbered.unsigned_append (numbered : Numbered text) (some_char : text ≠ [])
    (rest : List Char) : Unsigned (text ++ rest) := by
  intro c first
  obtain ⟨head, behind, rfl⟩ := List.exists_cons_of_ne_nil some_char
  cases first
  have numeric := numbered c List.mem_cons_self
  constructor
  · rintro rfl
    exact absurd numeric (by decide)
  · rintro rfl
    exact absurd numeric (by decide)

theorem unsigned_chars {digits : List Digit} (some_digit : digits ≠ []) :
    Unsigned (Digit.chars digits) := by
  rw [← List.append_nil (Digit.chars digits)]
  refine (numbered_chars digits).unsigned_append ?_ []
  rwa [Digit.chars, ne_eq, List.map_eq_nil_iff]

theorem splitSign_append (sign : Sign) (unsigned : Unsigned rest) :
    Quantity.splitSign (sign.chars ++ rest) = (decide (sign = .minus), rest) := by
  cases sign with
  | plus => rfl
  | minus => rfl
  | omitted =>
      show Quantity.splitSign rest = (false, rest)
      unfold Quantity.splitSign
      split
      · exact absurd rfl (unsigned '-' rfl).1
      · exact absurd rfl (unsigned '+' rfl).2
      · rfl

/-- A sign ends where the unsigned text begins. -/
theorem sign_append_inj {sign another : Sign} (unsigned : Unsigned rest)
    (unsigned' : Unsigned other) (same : sign.chars ++ rest = another.chars ++ other) :
    sign = another ∧ rest = other := by
  have split := congrArg Quantity.splitSign same
  rw [splitSign_append sign unsigned, splitSign_append another unsigned', Prod.mk.injEq] at split
  obtain ⟨-, rfl⟩ := split
  refine ⟨?_, rfl⟩
  have written := List.append_cancel_right same
  revert written
  cases sign <;> cases another <;> decide

theorem Numbered.takeWhile_append (numbered : Numbered text) (stops : Unnumbered rest) :
    (text ++ rest).takeWhile Quantity.isNumberChar = text := by
  rw [List.takeWhile_append_of_pos numbered]
  cases rest with
  | nil => exact List.append_nil text
  | cons c others => rw [List.takeWhile_cons_of_neg (by simp [stops c rfl]), List.append_nil]

theorem Numbered.dropWhile_append (numbered : Numbered text) (stops : Unnumbered rest) :
    (text ++ rest).dropWhile Quantity.isNumberChar = rest := by
  rw [List.dropWhile_append_of_pos numbered]
  cases rest with
  | nil => rfl
  | cons c others => rw [List.dropWhile_cons_of_neg (by simp [stops c rfl])]

/-! ## Suffixes -/

namespace Suffix

variable {letters : Multiple} {sign : Sign} {digits : List Digit} {c : Char}

theorem unnumbered_chars (suffix : Suffix) : Unnumbered suffix.chars := by
  intro c first
  cases suffix with
  | omitted => contradiction
  | multiple letters =>
      cases letters <;> cases first <;> rfl
  | exponent capital sign digits some_digit =>
      cases first
      cases capital <;> rfl

/-- The letters of a multiple are no digits, so they are never an exponent. -/
theorem multiple_chars_ne (some_digit : digits ≠ []) :
    letters.chars ≠ c :: (sign.chars ++ Digit.chars digits) := by
  intro same
  obtain ⟨digit, others, rfl⟩ := List.exists_cons_of_ne_nil some_digit
  have member : digit.char ∈ letters.chars := by
    rw [same]
    simp [Digit.chars]
  have letter : ∀ letters : Multiple, (letters.chars.all fun c => !c.isDigit) = true := by decide
  have digitless := List.all_eq_true.mp (letter letters) digit.char member
  rw [Digit.isDigit_char] at digitless
  exact Bool.false_ne_true digitless

theorem chars_injective : Function.Injective chars := by
  intro one other same
  cases one with
  | omitted =>
      cases other with
      | omitted => rfl
      | multiple letters => cases letters <;> contradiction
      | exponent capital sign digits some_digit => contradiction
  | multiple letters =>
      cases other with
      | omitted => cases letters <;> contradiction
      | multiple letters' => rw [Multiple.chars_injective same]
      | exponent capital sign digits some_digit => exact absurd same (multiple_chars_ne some_digit)
  | exponent capital sign digits some_digit =>
      cases other with
      | omitted => contradiction
      | multiple letters => exact absurd same.symm (multiple_chars_ne some_digit)
      | exponent capital' sign' digits' some_digit' =>
          obtain ⟨mark, behind⟩ := List.cons.inj same
          obtain ⟨rfl, rows⟩ := sign_append_inj (unsigned_chars some_digit)
            (unsigned_chars some_digit') behind
          cases Digit.chars_injective rows
          revert mark
          cases capital <;> cases capital' <;> simp

end Suffix

/-! ## Numerals -/

namespace Numeral

variable {whole whole' : List Digit} {fraction fraction' : Option (List Digit)}

theorem numbered_pointed (whole : List Digit) (fraction : Option (List Digit)) :
    Numbered (pointed whole fraction) := by
  intro c member
  rcases List.mem_append.mp member with front | back
  · exact numbered_chars whole c front
  · cases fraction with
    | none => contradiction
    | some digits =>
        rcases List.mem_cons.mp back with rfl | behind
        · rfl
        · exact numbered_chars digits c behind

theorem pointed_ne_nil (some_digit : whole ++ fraction.getD [] ≠ []) :
    pointed whole fraction ≠ [] := by
  intro empty
  obtain ⟨front, back⟩ := List.append_eq_nil_iff.mp empty
  cases fraction with
  | some digits => contradiction
  | none =>
      rw [Digit.chars, List.map_eq_nil_iff] at front
      rw [front] at some_digit
      exact some_digit rfl

theorem point_notMem_chars (digits : List Digit) : '.' ∉ Digit.chars digits := by
  intro member
  have digital := Digit.all_isDigit_chars digits '.' member
  contradiction

theorem splitFirst?_pointed (whole : List Digit) (fraction : Option (List Digit)) :
    Text.splitFirst? '.' (pointed whole fraction) =
      fraction.map fun digits => (Digit.chars whole, Digit.chars digits) := by
  cases fraction with
  | none =>
      rw [Option.map_none, Text.splitFirst?_eq_none_iff, pointed, Option.elim_none,
        List.append_nil]
      exact point_notMem_chars whole
  | some digits =>
      rw [Option.map_some, Text.splitFirst?_eq_some_iff]
      exact ⟨rfl, point_notMem_chars whole⟩

theorem pointed_inj (same : pointed whole fraction = pointed whole' fraction') :
    whole = whole' ∧ fraction = fraction' := by
  have split := congrArg (Text.splitFirst? '.') same
  rw [splitFirst?_pointed, splitFirst?_pointed] at split
  cases fraction with
  | none =>
      cases fraction' with
      | none =>
          rw [pointed, pointed] at same
          exact ⟨Digit.chars_injective (List.append_cancel_right same), rfl⟩
      | some digits => contradiction
  | some digits =>
      cases fraction' with
      | none => contradiction
      | some digits' =>
          simp only [Option.map_some, Option.some.injEq, Prod.mk.injEq] at split
          exact ⟨Digit.chars_injective split.1, congrArg some (Digit.chars_injective split.2)⟩

theorem unsigned_number (numeral : Numeral) :
    Unsigned (pointed numeral.whole numeral.fraction ++ numeral.suffix.chars) :=
  (numbered_pointed _ _).unsigned_append (pointed_ne_nil numeral.some_digit) _

/-- No two numerals are written alike. -/
theorem chars_injective : Function.Injective chars := by
  intro one other same
  obtain ⟨signs, behind⟩ := sign_append_inj one.unsigned_number other.unsigned_number same
  -- the number ends where the first character stands that is neither digit nor point
  have numbers := congrArg (List.takeWhile Quantity.isNumberChar) behind
  have suffixes := congrArg (List.dropWhile Quantity.isNumberChar) behind
  rw [(numbered_pointed _ _).takeWhile_append one.suffix.unnumbered_chars,
    (numbered_pointed _ _).takeWhile_append other.suffix.unnumbered_chars] at numbers
  rw [(numbered_pointed _ _).dropWhile_append one.suffix.unnumbered_chars,
    (numbered_pointed _ _).dropWhile_append other.suffix.unnumbered_chars] at suffixes
  obtain ⟨wholes, fractions⟩ := pointed_inj numbers
  have suffix := Suffix.chars_injective suffixes
  cases one
  cases other
  cases signs
  cases wholes
  cases fractions
  cases suffix
  rfl

end Numeral

end Headroom
