import Headroom.Resource.List
import Headroom.Proofs.Quantity.OfAmount
/-!
# Resources in writing

An amount is written in the notation that suits its resource: thousandths with `m`, whole mebibytes
with `Mi`, and everything else as the plain number. All of these are quantities, each suffix is the
one that the unit of the resource takes back (`exists_written`), and so the amount that was written
is the amount that is read. The smallest amount is the exception: no quantity comes to it
(`canonicalAmount_ne_least`).

Entries of a list are told apart in its text because neither a name nor an amount holds a comma,
and the two parts of an entry because a name holds no equals sign.
-/

namespace Headroom

/-! ## Conversions that need no rounding -/

namespace Quantity

variable {quantity : Quantity} {shift : Nat}

/-- Where the shift takes back the exponent, nothing is multiplied or cut off. -/
theorem size?_of_exponent_eq (exponent : quantity.exponent + shift = 0)
    (small : quantity.magnitude < sizeBound) : quantity.size? shift = some quantity.magnitude := by
  have narrow : quantity.mantissa * 2 ^ quantity.binary < sizeBound := small
  have fits : exponentFits 0 = true := by decide
  simp [size?, exponent, narrow, fits, magnitude]

theorem scaled_of_exponent_eq {amount : Amount} (exponent : quantity.exponent + shift = 0)
    (small : quantity.magnitude ≤ 9223372036854775807)
    (same : amount.val = withSign quantity.negative quantity.magnitude) :
    quantity.scaled shift = .ok amount := by
  have narrow : quantity.magnitude < sizeBound := by
    unfold sizeBound
    omega
  exact scaled_eq_ok_iff.mpr ⟨_, size?_of_exponent_eq exponent narrow, small, same⟩

end Quantity

/-! ## Amounts -/

namespace ResourceName

variable {name : ResourceName} {amount count : Amount} {suffix : Suffix}

/-- The decimal places that the unit of a resource adds to those of a quantity. -/
def places (name : ResourceName) : Nat := if name.isCpu then 3 else 0

theorem canonicalAmount_eq_scaled (name : ResourceName) (quantity : Quantity) :
    name.canonicalAmount quantity = quantity.scaled name.places := by
  unfold canonicalAmount places
  cases name.isCpu with
  | true => rfl
  | false => rfl

/-- An amount is written as a number with a suffix that stands for the unit of the resource. -/
structure Written (name : ResourceName) (amount count : Amount) (suffix : Suffix) : Prop where
  text_eq : name.amountText amount = count.text ++ String.ofList suffix.chars
  places_eq : suffix.scale.ten + name.places = 0
  value_eq : count.val * 2 ^ suffix.scale.two = amount.val

theorem exists_written (name : ResourceName) (amount : Amount) :
    ∃ count suffix, name.Written amount count suffix := by
  by_cases processor : name.isCpu = true
  · refine ⟨amount, .multiple .milli, ?_, ?_, ?_⟩
    · exact if_pos processor
    · simp [places, processor, Suffix.scale, Multiple.scale]
    · simp [Suffix.scale, Multiple.scale]
  · by_cases mebibytes : name.text = "memory" ∧ amount.val ≠ 0 ∧ amount.val.tmod 1048576 = 0
    · -- the quotient is exact, and is an amount because it is no larger than the dividend
      have whole := mebibytes.2.2
      have parts := Int.mul_tdiv_add_tmod amount.val 1048576
      have low := amount.least_le
      have high := amount.le_greatest
      refine ⟨⟨amount.val.tdiv 1048576, by omega, by omega⟩, .multiple .mebi, ?_, ?_, ?_⟩
      · rw [amountText, if_neg processor, if_pos mebibytes]
        rfl
      · simp [places, processor, Suffix.scale, Multiple.scale]
      · show amount.val.tdiv 1048576 * 2 ^ 20 = amount.val
        omega
    · refine ⟨amount, .omitted, ?_, ?_, ?_⟩
      · rw [amountText, if_neg processor, if_neg mebibytes]
        exact String.append_empty.symm
      · simp [places, processor, Suffix.scale]
      · simp [Suffix.scale]

theorem Written.parse_amountText (written : name.Written amount count suffix) :
    Quantity.parse (name.amountText amount) = .ok (.suffixed count suffix) := by
  have exponent := written.places_eq
  have fits : Quantity.ExponentFits suffix.scale.ten := by
    unfold places at exponent
    unfold Quantity.ExponentFits
    split at exponent <;> omega
  rw [written.text_eq]
  exact Quantity.parse_text_append count suffix fits

/-- The amount that was written is the amount that is read. -/
theorem Written.canonicalAmount_eq (written : name.Written amount count suffix)
    (above : amount ≠ .least) : name.canonicalAmount (.suffixed count suffix) = .ok amount := by
  have value := Quantity.withSign_suffixed count suffix
  rw [written.value_eq] at value
  have size := Quantity.natAbs_withSign (Quantity.suffixed count suffix).negative
    (Quantity.suffixed count suffix).magnitude
  rw [value] at size
  have low := amount.least_le
  have high := amount.le_greatest
  have differ : amount.val ≠ -9223372036854775808 := fun same => above (Amount.ext same)
  rw [canonicalAmount_eq_scaled]
  apply Quantity.scaled_of_exponent_eq written.places_eq
  · omega
  · exact value.symm

/-- The size of the smallest amount is refused before it gets its sign. -/
theorem canonicalAmount_ne_least (name : ResourceName) (quantity : Quantity) :
    name.canonicalAmount quantity ≠ .ok .least := by
  intro converted
  rw [canonicalAmount_eq_scaled] at converted
  obtain ⟨size, -, small, same⟩ := Quantity.scaled_eq_ok_iff.mp converted
  have size_eq := Quantity.natAbs_withSign quantity.negative size
  rw [← same] at size_eq
  have large : size = 9223372036854775808 := size_eq.symm
  omega

/-- Amounts of a resource that are written alike are the same, the smallest one included. -/
theorem amountText_injective (name : ResourceName) : Function.Injective name.amountText := by
  intro left right same
  obtain ⟨count, suffix, written⟩ := name.exists_written left
  obtain ⟨count', suffix', written'⟩ := name.exists_written right
  have parsed := written.parse_amountText
  rw [same, written'.parse_amountText] at parsed
  -- the stored numbers are compared, since the smallest amount is read but never converted
  have quantity_eq := Except.ok.inj parsed
  apply Amount.ext
  calc left.val = count.val * 2 ^ suffix.scale.two := written.value_eq.symm
    _ = count'.val * 2 ^ suffix'.scale.two := by
        rw [← Quantity.withSign_suffixed, ← Quantity.withSign_suffixed, quantity_eq]
    _ = right.val := written'.value_eq

end ResourceName

/-! ## The characters of an entry -/

/-- Only letters, digits and four more characters stand in a name. -/
theorem ResourceName.not_mem_text (name : ResourceName) {c : Char} (other : allowed c = false) :
    c ∉ name.text.toList := by
  intro member
  have all := List.all_eq_true.mp name.valid.2.2 c member
  rw [other] at all
  contradiction

theorem Text.comma_not_mem_digits (digits : List Text.Digit) : ',' ∉ Text.Digit.chars digits := by
  intro member
  have digital := Text.Digit.all_isDigit_chars digits ',' member
  revert digital
  decide

theorem Text.comma_not_mem_sign (sign : Text.Sign) : ',' ∉ sign.chars := by
  cases sign <;> decide

theorem Amount.comma_not_mem_text (amount : Amount) : ',' ∉ amount.text.toList := by
  obtain ⟨digits, -, written, -⟩ := Text.exists_chars_eq_ofInt amount.val
  rw [Amount.text, String.toList_ofList, ← written, List.mem_append, not_or]
  exact ⟨Text.comma_not_mem_sign _, Text.comma_not_mem_digits digits⟩

theorem Suffix.comma_not_mem_chars (suffix : Suffix) : ',' ∉ suffix.chars := by
  cases suffix with
  | omitted => exact List.not_mem_nil
  | multiple letters => cases letters <;> decide
  | exponent capital sign digits some_digit =>
      rw [Suffix.chars, List.mem_cons, List.mem_append, not_or, not_or]
      refine ⟨?_, Text.comma_not_mem_sign sign, Text.comma_not_mem_digits digits⟩
      cases capital <;> decide

theorem ResourceName.comma_not_mem_amountText (name : ResourceName) (amount : Amount) :
    ',' ∉ (name.amountText amount).toList := by
  obtain ⟨count, suffix, written⟩ := name.exists_written amount
  rw [written.text_eq, String.toList_append, String.toList_ofList, List.mem_append, not_or]
  exact ⟨count.comma_not_mem_text, suffix.comma_not_mem_chars⟩

namespace ResourceList

/-- An entry as it is written. -/
def entryText (entry : ResourceName × Amount) : List Char :=
  entry.1.text.toList ++ '=' :: (entry.1.amountText entry.2).toList

theorem toList_text (list : ResourceList) :
    list.text.toList = List.intercalate [',', ' '] (list.entries.map entryText) := by
  rw [text, String.toList_intercalate, List.map_map]
  congr 1
  apply List.map_congr_left
  intro entry _
  simp [entryText]

theorem entryText_plain (entry : ResourceName × Amount) :
    entryText entry ≠ [] ∧ ',' ∉ entryText entry := by
  unfold entryText
  refine ⟨by simp, ?_⟩
  rw [List.mem_append, List.mem_cons, not_or, not_or]
  exact ⟨entry.1.not_mem_text (by decide), by decide, entry.1.comma_not_mem_amountText entry.2⟩

theorem splitFirst?_entryText (entry : ResourceName × Amount) :
    Text.splitFirst? '=' (entryText entry) =
      some (entry.1.text.toList, (entry.1.amountText entry.2).toList) :=
  Text.splitFirst?_eq_some_iff.mpr ⟨rfl, entry.1.not_mem_text (by decide)⟩

theorem entryText_injective : Function.Injective entryText := by
  intro left right same
  obtain ⟨name, amount⟩ := left
  obtain ⟨name', amount'⟩ := right
  have split := congrArg (Text.splitFirst? '=') same
  rw [splitFirst?_entryText, splitFirst?_entryText, Option.some.injEq, Prod.mk.injEq] at split
  obtain ⟨names, amounts⟩ := split
  obtain rfl : name = name' := TextKey.chars_injective names
  exact Prod.ext rfl (name.amountText_injective (String.toList_injective amounts))

theorem text_injective : Function.Injective text := by
  intro left right same
  have written := congrArg String.toList same
  rw [toList_text, toList_text] at written
  have plain (list : ResourceList) : ∀ item ∈ list.entries.map entryText, item ≠ [] ∧ ',' ∉ item :=
    List.forall_mem_map.mpr fun entry _ => entryText_plain entry
  have items := Text.intercalate_inj (plain left) (plain right) written
  exact Dict.ext_entries (List.map_injective_iff.mpr entryText_injective items)

end ResourceList

/-- Printed amounts read back: what is written of an amount other than the smallest one is read as a
quantity that comes to the same amount of the resource. And the text of a list determines it. -/
theorem printed_amounts_read_back :
    (∀ (name : ResourceName) (amount : Amount), amount ≠ .least →
      ∃ quantity, Quantity.parse (name.amountText amount) = .ok quantity ∧
        name.canonicalAmount quantity = .ok amount) ∧
    ∀ left right : ResourceList, left.text = right.text → left = right := by
  constructor
  · intro name amount above
    obtain ⟨count, suffix, written⟩ := name.exists_written amount
    exact ⟨_, written.parse_amountText, written.canonicalAmount_eq above⟩
  · intro left right same
    exact ResourceList.text_injective same

namespace Sample

/-- Half a gibibyte too much. -/
def owedMemory : Amount := { val := -536870912 }

/-- A quarter of a core, set after the memory. -/
def lateCpu : ResourceList :=
  ((Dict.empty : ResourceList).insert .memory owedMemory).insert .cpu { val := 250 }

theorem printed_amounts_read_back_owedMemory :
    ResourceName.memory.amountText owedMemory = "-512Mi" ∧
    lateCpu.text = "cpu=250m, memory=-512Mi" ∧
    (∃ quantity, Quantity.parse (ResourceName.memory.amountText owedMemory) = .ok quantity ∧
      ResourceName.memory.canonicalAmount quantity = .ok owedMemory) ∧
    ResourceList.cpuMemory { val := 250 } owedMemory = lateCpu := by
  refine ⟨by decide, by decide, ?_, ?_⟩
  · exact printed_amounts_read_back.1 .memory owedMemory (by decide)
  · exact printed_amounts_read_back.2 _ _ (by decide)

end Sample

end Headroom
