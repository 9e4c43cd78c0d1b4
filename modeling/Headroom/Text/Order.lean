/-!
# The order of texts

Texts are ordered by the first character in which they differ, and a text comes before its
extensions. Characters compare by code point, so this is also the order of the UTF-8 encodings.
Main statements: the comparison is exact (`compare_eq_iff`), antisymmetric (`compare_swap`) and
transitive (`compare_lt_trans`).
-/

namespace Headroom.Text

/-- Three-way comparison by the first differing code point. -/
def compare : List Char → List Char → Ordering
  | [], [] => .eq
  | [], _ :: _ => .lt
  | _ :: _, [] => .gt
  | a :: as, b :: bs =>
      if a.toNat < b.toNat then .lt
      else if b.toNat < a.toNat then .gt
      else compare as bs

private theorem char_eq_of_toNat_eq {a b : Char} (same : a.toNat = b.toNat) : a = b :=
  Char.ext (UInt32.toNat_inj.mp same)

theorem compare_self (text : List Char) : compare text text = .eq := by
  induction text with
  | nil => rfl
  | cons a as ih => simp [compare, ih]

theorem eq_of_compare_eq {left right : List Char} (equal : compare left right = .eq) :
    left = right := by
  induction left generalizing right with
  | nil => cases right with
    | nil => rfl
    | cons b bs => simp [compare] at equal
  | cons a as ih => cases right with
    | nil => simp [compare] at equal
    | cons b bs =>
        simp only [compare] at equal
        split at equal
        · contradiction
        · split at equal
          · contradiction
          · rw [char_eq_of_toNat_eq (a := a) (b := b) (by omega), ih equal]

/-- Two texts compare as equal exactly when they are the same text. -/
theorem compare_eq_iff {left right : List Char} : compare left right = .eq ↔ left = right :=
  ⟨eq_of_compare_eq, fun same => same ▸ compare_self left⟩

/-- Swapping the sides swaps the answer. -/
theorem compare_swap (left right : List Char) :
    (compare left right).swap = compare right left := by
  induction left generalizing right with
  | nil => cases right <;> rfl
  | cons a as ih => cases right with
    | nil => rfl
    | cons b bs =>
        simp only [compare]
        by_cases below : a.toNat < b.toNat
        · simp [below, Nat.lt_asymm below]
        · by_cases above : b.toNat < a.toNat
          · simp [below, above]
          · simp [below, above, ih]

theorem compare_lt_trans {first second third : List Char}
    (early : compare first second = .lt) (late : compare second third = .lt) :
    compare first third = .lt := by
  induction first generalizing second third with
  | nil => cases second with
    | nil => simp [compare] at early
    | cons b bs => cases third with
      | nil => simp [compare] at late
      | cons c cs => rfl
  | cons a as ih => cases second with
    | nil => simp [compare] at early
    | cons b bs => cases third with
      | nil => simp [compare] at late
      | cons c cs =>
          simp only [compare] at early late ⊢
          by_cases ab : a.toNat < b.toNat
          · by_cases bc : b.toNat < c.toNat
            · simp [show a.toNat < c.toNat by omega]
            · by_cases cb : c.toNat < b.toNat
              · simp [bc, cb] at late
              · simp [show a.toNat < c.toNat by omega]
          · by_cases ba : b.toNat < a.toNat
            · simp [ab, ba] at early
            · have level : a.toNat = b.toNat := by omega
              simp only [ab, ba, if_false] at early
              by_cases bc : b.toNat < c.toNat
              · simp [show a.toNat < c.toNat by omega]
              · by_cases cb : c.toNat < b.toNat
                · simp [bc, cb] at late
                · simp only [bc, cb, if_false] at late
                  have ac : ¬ a.toNat < c.toNat := by omega
                  have ca : ¬ c.toNat < a.toNat := by omega
                  simp only [ac, ca, if_false]
                  exact ih early late

end Headroom.Text
