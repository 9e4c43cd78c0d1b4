import Headroom.Text.Integer
import Mathlib.Data.Nat.Digits.Lemmas
/-!
# Digits and signs

A written integer is a sign and a row of digits. Digits are numbers below ten here, so a row of them
denotes a number without any check; the characters are how it is written. The readers find exactly
the rows there are (`readNat?_eq_some_iff`, `readSigned?_eq_some_iff`), and adding the digits up
passes through no number that is larger than the result (`digitsValueBelow?_eq_some`).
-/

namespace Headroom.Text

theorem digitsValue_append_singleton (digits : List Char) (digit : Char) :
    digitsValue (digits ++ [digit]) = 10 * digitsValue digits + (digit.toNat - '0'.toNat) := by
  rw [digitsValue, List.foldl_append]
  rfl

/-- A decimal digit. -/
abbrev Digit := Fin 10

namespace Digit

variable {digit : Digit} {digits : List Digit} {c : Char} {text : List Char} {n : Nat}

/-- The character that stands for a digit. -/
def char (digit : Digit) : Char := Nat.digitChar digit

/-- A row of digits as it is written. -/
def chars (digits : List Digit) : List Char := digits.map char

/-- The number that a row of digits denotes. The most significant digit stands first. -/
def number (digits : List Digit) : Nat := Nat.ofDigits 10 (digits.reverse.map Fin.val)

theorem char_injective : Function.Injective char := by
  unfold Function.Injective
  decide

theorem chars_injective : Function.Injective chars := List.map_injective_iff.mpr char_injective

theorem isDigit_char (digit : Digit) : digit.char.isDigit = true := by
  revert digit
  decide

theorem toNat_char (digit : Digit) : digit.char.toNat = '0'.toNat + digit := by
  revert digit
  decide

theorem exists_char_eq (isDigit : c.isDigit = true) : ∃ digit, char digit = c := by
  simp only [Char.isDigit, Bool.and_eq_true, decide_eq_true_eq] at isDigit
  obtain ⟨low, high⟩ := isDigit
  have least : 48 ≤ c.toNat := low
  have greatest : c.toNat ≤ 57 := high
  refine ⟨⟨c.toNat - 48, by omega⟩, Char.ext (UInt32.toNat_inj.mp ?_)⟩
  show (char ⟨c.toNat - 48, _⟩).toNat = c.toNat
  rw [toNat_char]
  show 48 + (c.toNat - 48) = c.toNat
  omega

theorem all_isDigit_chars (digits : List Digit) : ∀ c ∈ chars digits, c.isDigit = true := by
  intro c member
  obtain ⟨digit, -, rfl⟩ := List.mem_map.mp member
  exact isDigit_char digit

/-- Rows of digits are the texts with nothing else in them. -/
theorem exists_chars_eq_iff : (∃ digits, chars digits = text) ↔ ∀ c ∈ text, c.isDigit = true := by
  constructor
  · rintro ⟨digits, rfl⟩
    exact all_isDigit_chars digits
  · intro all
    induction text with
    | nil => exact ⟨[], rfl⟩
    | cons c rest ih =>
        obtain ⟨isDigit, others⟩ := List.forall_mem_cons.mp all
        obtain ⟨digit, rfl⟩ := exists_char_eq isDigit
        obtain ⟨digits, rfl⟩ := ih others
        exact ⟨digit :: digits, rfl⟩

theorem number_append_singleton (digits : List Digit) (digit : Digit) :
    number (digits ++ [digit]) = 10 * number digits + digit := by
  simp [number, Nat.ofDigits_cons]
  omega

/-- The reader's sum is the number that the digits denote. -/
theorem digitsValue_chars (digits : List Digit) : digitsValue (chars digits) = number digits := by
  induction digits using List.reverseRecOn with
  | nil => rfl
  | append_singleton rest digit ih =>
      show digitsValue ((rest ++ [digit]).map char) = _
      rw [List.map_append, List.map_singleton, digitsValue_append_singleton, toNat_char,
        Nat.add_sub_cancel_left, number_append_singleton, ← ih, chars]

/-- Leading zeros add nothing to a number. -/
theorem number_dropWhile (digits : List Digit) :
    number (digits.dropWhile (· = 0)) = number digits := by
  induction digits with
  | nil => rfl
  | cons digit rest ih =>
      by_cases zero : digit = 0
      · rw [List.dropWhile_cons_of_pos (by simpa using zero), ih, zero]
        simp [number, Nat.ofDigits_append]
      · rw [List.dropWhile_cons_of_neg (by simpa using zero)]

theorem number_lt (digits : List Digit) : number digits < 10 ^ digits.length := by
  have bound := Nat.ofDigits_lt_base_pow_length (b := 10) (l := digits.reverse.map Fin.val)
    (by decide) (by simp)
  simpa [number] using bound

theorem number_append (whole fraction : List Digit) :
    number (whole ++ fraction) = number whole * 10 ^ fraction.length + number fraction := by
  simp [number, Nat.ofDigits_append]
  ring

/-- The digits of a natural number: there is at least one, and no more than its size asks for. -/
theorem exists_chars_eq_ofNat (n : Nat) : ∃ digits, chars digits = ofNat n ∧ digits ≠ [] ∧
    number digits = n ∧ ∀ places, 0 < places → n < 10 ^ places → digits.length ≤ places := by
  obtain ⟨digits, same⟩ : ∃ digits, chars digits = ofNat n :=
    exists_chars_eq_iff.mpr fun c member =>
      Nat.isDigit_of_mem_toDigits (by decide) (by decide) member
  refine ⟨digits, same, ?_, ?_, ?_⟩
  · rintro rfl
    exact Nat.toDigits_ne_nil same.symm
  · rw [← digitsValue_chars, same]
    exact Nat.ofDigitChars_toDigits (by decide) (by decide)
  · intro places positive bound
    have short := Nat.toDigits_length 10 n places positive bound
    rw [← ofNat, ← same, chars, List.length_map] at short
    exact short

end Digit

/-! ## Adding up in a bounded type -/

/-- A number, unless it reaches the bound. -/
def below? (bound n : Nat) : Option Nat := if n < bound then some n else none

/-- The value of a row of digits as it is added up where no product and no sum may reach the
bound. -/
def digitsValueBelow? (bound : Nat) (digits : List Char) : Option Nat :=
  digits.foldlM (fun value digit => do
    let tens ← below? bound (10 * value)
    below? bound (tens + (digit.toNat - '0'.toNat))) 0

/-- If the result is below the bound, so is everything on the way. -/
theorem digitsValueBelow?_eq_some {bound : Nat} {digits : List Char}
    (fits : digitsValue digits < bound) :
    digitsValueBelow? bound digits = some (digitsValue digits) := by
  induction digits using List.reverseRecOn with
  | nil => rfl
  | append_singleton rest digit ih =>
      rw [digitsValue_append_singleton] at fits ⊢
      have tens : 10 * digitsValue rest < bound := by omega
      have before := ih (by omega)
      rw [digitsValueBelow?] at before ⊢
      rw [List.foldlM_append, before]
      simpa [below?, tens] using fits

/-! ## Signs -/

/-- What may stand in front of a number. -/
inductive Sign where
  | omitted
  | plus
  | minus
deriving DecidableEq

namespace Sign

/-- A sign as it is written. -/
def chars : Sign → List Char
  | omitted => []
  | plus => ['+']
  | minus => ['-']

/-- The sign that an integer is written with. -/
def ofInt (n : Int) : Sign := if n < 0 then minus else omitted

theorem ofInt_eq_minus_iff {n : Int} : ofInt n = minus ↔ n < 0 := by
  unfold ofInt
  split <;> simp_all

/-- What a sign multiplies a number by. -/
def factor : Sign → Int
  | omitted | plus => 1
  | minus => -1

end Sign

/-- The decimal form of an integer is a sign and the digits of its size. -/
theorem exists_chars_eq_ofInt (n : Int) : ∃ digits, digits ≠ [] ∧
    (Sign.ofInt n).chars ++ Digit.chars digits = ofInt n ∧ Digit.number digits = n.natAbs ∧
      ∀ places, 0 < places → n.natAbs < 10 ^ places → digits.length ≤ places := by
  obtain ⟨digits, written, some_digit, same, short⟩ := Digit.exists_chars_eq_ofNat n.natAbs
  refine ⟨digits, some_digit, ?_, same, short⟩
  rw [written, ofInt, Sign.ofInt]
  split <;> rfl

/-! ## The readers -/

variable {text : List Char} {n : Nat} {least greatest value : Int}

theorem readNat?_eq_some_iff : readNat? text = some n ↔
    ∃ digits, digits ≠ [] ∧ Digit.chars digits = text ∧ Digit.number digits = n := by
  simp only [readNat?, Option.ite_none_right_eq_some, Option.some.injEq, List.all_eq_true]
  constructor
  · rintro ⟨⟨some_digit, all⟩, rfl⟩
    obtain ⟨digits, rfl⟩ := Digit.exists_chars_eq_iff.mpr all
    refine ⟨digits, ?_, rfl, (Digit.digitsValue_chars digits).symm⟩
    rintro rfl
    exact some_digit rfl
  · rintro ⟨digits, some_digit, rfl, rfl⟩
    refine ⟨⟨?_, Digit.all_isDigit_chars digits⟩, Digit.digitsValue_chars digits⟩
    rwa [Digit.chars, ne_eq, List.map_eq_nil_iff]

/-- The number read after a sign. -/
private theorem signed_eq_some_iff (sign : Sign) {change : Int → Int}
    (same : ∀ n, sign.factor * n = change n) :
    (do let n ← readNat? text; pure (n : Int) : Option Int).map change = some value ↔
      ∃ digits, digits ≠ [] ∧ Digit.chars digits = text ∧
        sign.factor * Digit.number digits = value := by
  simp only [Option.map_eq_some_iff, Option.bind_eq_bind, Option.bind_eq_some_iff]
  constructor
  · rintro ⟨size, ⟨n, found, whole⟩, rfl⟩
    obtain ⟨digits, some_digit, written, rfl⟩ := readNat?_eq_some_iff.mp found
    cases whole
    exact ⟨digits, some_digit, written, same _⟩
  · rintro ⟨digits, some_digit, written, rfl⟩
    exact ⟨_, ⟨_, readNat?_eq_some_iff.mpr ⟨digits, some_digit, written, rfl⟩, rfl⟩,
      (same _).symm⟩

theorem readSigned?_eq_some_iff : readSigned? least greatest text = some value ↔
    (∃ (sign : Sign) (digits : List Digit), digits ≠ [] ∧ sign.chars ++ Digit.chars digits = text ∧
      sign.factor * Digit.number digits = value) ∧ least ≤ value ∧ value ≤ greatest := by
  simp only [readSigned?, Option.filter_eq_some_iff, Bool.and_eq_true, decide_eq_true_eq]
  refine and_congr_left fun _ => ?_
  constructor
  · intro read
    split at read
    · obtain ⟨digits, some_digit, rfl, rfl⟩ :=
        (signed_eq_some_iff .minus Int.neg_one_mul).mp read
      exact ⟨.minus, digits, some_digit, rfl, rfl⟩
    · obtain ⟨digits, some_digit, rfl, rfl⟩ := (signed_eq_some_iff .plus Int.one_mul).mp read
      exact ⟨.plus, digits, some_digit, rfl, rfl⟩
    · obtain ⟨digits, some_digit, rfl, rfl⟩ := (signed_eq_some_iff .omitted Int.one_mul).mp read
      exact ⟨.omitted, digits, some_digit, rfl, rfl⟩
  · rintro ⟨sign, digits, some_digit, rfl, rfl⟩
    cases sign with
    | plus => exact (signed_eq_some_iff .plus Int.one_mul).mpr ⟨digits, some_digit, rfl, rfl⟩
    | minus =>
        exact (signed_eq_some_iff .minus Int.neg_one_mul).mpr ⟨digits, some_digit, rfl, rfl⟩
    | omitted =>
        -- a digit is neither of the two signs
        have digital := Digit.all_isDigit_chars digits
        simp only [Sign.chars, List.nil_append]
        split
        · next rest same =>
            rw [same] at digital
            exact absurd (digital '-' List.mem_cons_self) (by decide)
        · next rest same =>
            rw [same] at digital
            exact absurd (digital '+' List.mem_cons_self) (by decide)
        · exact (signed_eq_some_iff .omitted Int.one_mul).mpr ⟨digits, some_digit, rfl, rfl⟩

end Headroom.Text
