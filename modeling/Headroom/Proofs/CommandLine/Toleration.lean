import Headroom.CommandLine.Values
import Headroom.Proofs.Except
import Headroom.Proofs.Text.Split
/-!
# Tolerations in writing

Reading a toleration undoes writing it. The effect is found behind the last colon and the value
behind the first equals sign, so the notation is ambiguous only where a key holds an equals sign,
or where no effect follows and a colon of the key or the value would be taken for the one before an
effect. Every toleration that is read is outside of these cases, and is written as it was read.

The taints of a refused node are shown in the same notation: what is shown of one is a toleration
of it.
-/

namespace Headroom

namespace TaintEffect

theorem ofString?_eq_some_iff {name : String} {effect : TaintEffect} :
    ofString? name = some effect ↔ effect.text = name := by
  constructor
  · intro found
    have named := List.find?_some found
    exact of_decide_eq_true named
  · intro named
    subst named
    cases effect <;> decide

theorem colon_not_mem_text (effect : TaintEffect) : ':' ∉ effect.text.toList := by
  cases effect <;> decide

end TaintEffect

namespace Toleration

variable {toleration bare : Toleration} {effect : TaintEffect} {subject : List Char}
  {text : String}

theorem validate_eq_ok_iff : toleration.validate = .ok () ↔
    (toleration.operator = .anyValue → toleration.value = "") ∧
      (toleration.operator = .equal → toleration.key ≠ "") := by
  cases asked : toleration.operator with
  | anyValue => simp [validate, asked]
  | equal => simp [validate, asked]

/-- A toleration that the notation can carry. -/
structure Writable (toleration : Toleration) : Prop where
  wellFormed : toleration.validate = .ok ()
  key_plain : '=' ∉ toleration.key.toList
  no_colon : toleration.effect = none →
    ':' ∉ toleration.key.toList ∧ ':' ∉ toleration.value.toList

/-! ## The part before the effect -/

theorem text_of_anyValue (unrestricted : bare.effect = none) (asked : bare.operator = .anyValue) :
    bare.text.toList = bare.key.toList := by
  simp [Toleration.text, unrestricted, asked]

theorem text_of_equal (unrestricted : bare.effect = none) (asked : bare.operator = .equal) :
    bare.text.toList = bare.key.toList ++ '=' :: bare.value.toList := by
  simp [Toleration.text, unrestricted, asked]

/-- An effect is written behind a colon. -/
theorem text_of_effect (restricted : toleration.effect = some effect) : toleration.text =
    Toleration.text { toleration with effect := none } ++ ":" ++ effect.text := by
  simp [Toleration.text, restricted]

/-- A colon of the written subject is one of the key or one of the value. -/
theorem colon_mem_text_iff (wellFormed : bare.validate = .ok ())
    (unrestricted : bare.effect = none) :
    ':' ∈ bare.text.toList ↔ ':' ∈ bare.key.toList ∨ ':' ∈ bare.value.toList := by
  obtain ⟨no_value, -⟩ := validate_eq_ok_iff.mp wellFormed
  cases asked : bare.operator with
  | anyValue => simp [text_of_anyValue unrestricted asked, no_value asked]
  | equal => simp [text_of_equal unrestricted asked]

theorem checkSubject_eq_ok_iff_readSubject : checkSubject subject = .ok bare ↔
    readSubject subject = bare ∧ bare.validate = .ok () := by
  unfold checkSubject
  rw [bind_eq_ok_iff]
  constructor
  · rintro ⟨⟨⟩, checked, returned⟩
    cases returned
    exact ⟨rfl, mapError_eq_ok_iff.mp checked⟩
  · rintro ⟨rfl, wellFormed⟩
    exact ⟨(), mapError_eq_ok_iff.mpr wellFormed, rfl⟩

/-- A subject is read without an effect and with a key before the first equals sign, and is written
as it was read. -/
theorem readSubject_plain (subject : List Char) : (readSubject subject).effect = none ∧
    '=' ∉ (readSubject subject).key.toList ∧ (readSubject subject).text.toList = subject := by
  unfold readSubject
  cases parts : Text.splitFirst? '=' subject with
  | none =>
      have plain := Text.splitFirst?_eq_none_iff.mp parts
      refine ⟨rfl, ?_, ?_⟩
      · simpa [ofKey] using plain
      · rw [text_of_anyValue rfl rfl]
        simp [ofKey]
  | some found =>
      obtain ⟨shape, plain⟩ := Text.splitFirst?_eq_some_iff.mp parts
      refine ⟨rfl, ?_, ?_⟩
      · simpa [ofValue] using plain
      · rw [text_of_equal rfl rfl, shape]
        simp [ofValue]

theorem readSubject_text (unrestricted : bare.effect = none) (wellFormed : bare.validate = .ok ())
    (plain : '=' ∉ bare.key.toList) : readSubject bare.text.toList = bare := by
  obtain ⟨no_value, -⟩ := validate_eq_ok_iff.mp wellFormed
  cases asked : bare.operator with
  | anyValue =>
      rw [text_of_anyValue unrestricted asked, readSubject, Text.splitFirst?_eq_none_iff.mpr plain]
      show ofKey (String.ofList bare.key.toList) = bare
      rw [String.ofList_toList, ofKey, ← asked, ← no_value asked, ← unrestricted]
  | equal =>
      have parts : Text.splitFirst? '=' (bare.key.toList ++ '=' :: bare.value.toList) =
          some (bare.key.toList, bare.value.toList) :=
        Text.splitFirst?_eq_some_iff.mpr ⟨rfl, plain⟩
      rw [text_of_equal unrestricted asked, readSubject, parts]
      show ofValue (String.ofList bare.key.toList) (String.ofList bare.value.toList) = bare
      rw [String.ofList_toList, String.ofList_toList, ofValue, ← asked, ← unrestricted]

/-- The subject is read as the toleration that it is the written form of. -/
theorem checkSubject_eq_ok_iff : checkSubject subject = .ok bare ↔
    bare.effect = none ∧ bare.validate = .ok () ∧ '=' ∉ bare.key.toList ∧
      bare.text.toList = subject := by
  rw [checkSubject_eq_ok_iff_readSubject]
  constructor
  · rintro ⟨rfl, wellFormed⟩
    obtain ⟨unrestricted, plain, written⟩ := readSubject_plain subject
    exact ⟨unrestricted, wellFormed, plain, written⟩
  · rintro ⟨unrestricted, wellFormed, plain, rfl⟩
    exact ⟨readSubject_text unrestricted wellFormed plain, wellFormed⟩

/-! ## The whole notation -/

/-- Without a colon, all of the text is the subject. -/
theorem read_eq_checkSubject (plain : ':' ∉ text.toList) :
    read text = checkSubject text.toList := by
  rw [read, Text.splitLast?_eq_none_iff.mpr plain]

/-- Behind the last colon stands the effect. -/
theorem read_eq_ok_iff_of_effect {name : List Char}
    (split : Text.splitLast? ':' text.toList = some (subject, name)) :
    read text = .ok toleration ↔ ∃ effect bare, effect.text = String.ofList name ∧
      checkSubject subject = .ok bare ∧ { bare with effect := some effect } = toleration := by
  simp only [read, split, ← TaintEffect.ofString?_eq_some_iff]
  cases named : TaintEffect.ofString? (String.ofList name) with
  | none => simp
  | some effect => simp [bind_eq_ok_iff, pure, Except.pure]

/-- What is written of a writable toleration reads as that toleration. -/
theorem Writable.read_text (writable : toleration.Writable) :
    read toleration.text = .ok toleration := by
  cases restricted : toleration.effect with
  | none =>
      have plain : ':' ∉ toleration.text.toList := by
        rw [colon_mem_text_iff writable.wellFormed restricted, not_or]
        exact writable.no_colon restricted
      rw [read_eq_checkSubject plain, checkSubject_eq_ok_iff]
      exact ⟨restricted, writable.wellFormed, writable.key_plain, rfl⟩
  | some effect =>
      -- a colon in the key or the value is never the last one
      have split : Text.splitLast? ':' toleration.text.toList = some
          ((Toleration.text { toleration with effect := none }).toList, effect.text.toList) := by
        apply Text.splitLast?_eq_some_iff.mpr
        refine ⟨?_, effect.colon_not_mem_text⟩
        rw [text_of_effect restricted]
        simp
      have checked : checkSubject (Toleration.text { toleration with effect := none }).toList =
          .ok { toleration with effect := none } :=
        checkSubject_eq_ok_iff.mpr ⟨rfl, writable.wellFormed, writable.key_plain, rfl⟩
      apply (read_eq_ok_iff_of_effect split).mpr
      refine ⟨effect, { toleration with effect := none }, String.ofList_toList.symm, checked, ?_⟩
      rw [← restricted]

/-- What is read is writable, and is written as it was read. -/
theorem writable_of_read (was_read : read text = .ok toleration) :
    toleration.Writable ∧ toleration.text = text := by
  cases split : Text.splitLast? ':' text.toList with
  | none =>
      have plain := Text.splitLast?_eq_none_iff.mp split
      rw [read_eq_checkSubject plain, checkSubject_eq_ok_iff] at was_read
      obtain ⟨unrestricted, wellFormed, key_plain, written⟩ := was_read
      rw [← written, colon_mem_text_iff wellFormed unrestricted, not_or] at plain
      exact ⟨⟨wellFormed, key_plain, fun _ => plain⟩, String.toList_inj.mp written⟩
  | some parts =>
      obtain ⟨subject, name⟩ := parts
      obtain ⟨effect, bare, named, checked, rfl⟩ := (read_eq_ok_iff_of_effect split).mp was_read
      obtain ⟨unrestricted, wellFormed, key_plain, written⟩ := checkSubject_eq_ok_iff.mp checked
      obtain ⟨shape, -⟩ := Text.splitLast?_eq_some_iff.mp split
      refine ⟨⟨wellFormed, key_plain, nofun⟩, ?_⟩
      rw [text_of_effect rfl, named, ← String.toList_inj, shape, ← written, ← unrestricted]
      simp

/-! ## Taints that are shown -/

/-- The toleration that a taint is shown as. -/
def ofTaint (taint : Taint) : Toleration :=
  if taint.value = "" then { ofKey taint.key with effect := some taint.effect }
  else { ofValue taint.key taint.value with effect := some taint.effect }

theorem text_ofTaint (taint : Taint) : (ofTaint taint).text = taint.text := by
  unfold ofTaint Taint.text
  by_cases valueless : taint.value = ""
  · rw [if_pos valueless, if_pos valueless]
    rfl
  · rw [if_neg valueless, if_neg valueless]
    rfl

theorem writable_ofTaint {taint : Taint} (keyed : taint.key ≠ "")
    (plain : '=' ∉ taint.key.toList) : (ofTaint taint).Writable := by
  unfold ofTaint
  by_cases valueless : taint.value = ""
  · rw [if_pos valueless]
    exact ⟨rfl, plain, nofun⟩
  · rw [if_neg valueless]
    refine ⟨?_, plain, nofun⟩
    exact validate_eq_ok_iff.mpr ⟨nofun, fun _ => keyed⟩

theorem ofTaint_tolerates {taint : Taint} (keyed : taint.key ≠ "") :
    (ofTaint taint).tolerates taint = true := by
  unfold ofTaint
  by_cases valueless : taint.value = ""
  · simp [valueless, ofKey, tolerates, keyed]
  · simp [valueless, ofValue, tolerates, keyed]

/-- Reading is the exact inverse of writing: a text is read as a toleration exactly if the
toleration is writable and the text is what is written of it. In particular what is shown of a
taint under a key without an equals sign reads as a toleration of the taint. -/
theorem read_eq_ok_iff_writable :
    (∀ (text : String) (toleration : Toleration),
      read text = .ok toleration ↔ toleration.Writable ∧ toleration.text = text) ∧
    ∀ taint : Taint, taint.key ≠ "" → '=' ∉ taint.key.toList →
      ∃ toleration, read taint.text = .ok toleration ∧ toleration.tolerates taint = true := by
  constructor
  · intro text toleration
    constructor
    · exact writable_of_read
    · rintro ⟨writable, rfl⟩
      exact writable.read_text
  · intro taint keyed plain
    refine ⟨ofTaint taint, ?_, ofTaint_tolerates keyed⟩
    rw [← text_ofTaint]
    exact (writable_ofTaint keyed plain).read_text

end Toleration

namespace Sample

/-- A taint whose value holds both separators. -/
def separatedTaint : Taint := { key := "purpose", value := "a:b=c", effect := .noExecute }

theorem read_eq_ok_iff_writable_separatedTaint :
    separatedTaint.text = "purpose=a:b=c:NoExecute" ∧
    Toleration.read "purpose=a:b=c:NoExecute" = .ok (Toleration.ofTaint separatedTaint) ∧
    ∃ toleration, Toleration.read separatedTaint.text = .ok toleration ∧
      toleration.tolerates separatedTaint = true := by
  refine ⟨by decide, ?_, ?_⟩
  · apply (Toleration.read_eq_ok_iff_writable.1 _ _).mpr
    exact ⟨⟨by decide, by decide, by decide⟩, by decide⟩
  · exact Toleration.read_eq_ok_iff_writable.2 separatedTaint (by decide) (by decide)

end Sample

end Headroom
