import Headroom.Text.Split
/-!
# Where a text is split

A split at the first separator leaves none of them in the part before it, a split at the last one
none in the part after it, and there is a split whenever there is a separator. Texts that are joined
with a separator between them can be told apart again if it occurs in none of them
(`intercalate_inj`).
-/

namespace Headroom.Text

variable {separator : Char} {text before after : List Char}

theorem splitFirst?_eq_none_iff : splitFirst? separator text = none ↔ separator ∉ text := by
  induction text with
  | nil => simp [splitFirst?]
  | cons c rest ih =>
      by_cases here : c = separator
      · simp [splitFirst?, here]
      · simp [splitFirst?, here, ih, Ne.symm here]

theorem splitFirst?_eq_some_iff : splitFirst? separator text = some (before, after) ↔
    text = before ++ separator :: after ∧ separator ∉ before := by
  induction text generalizing before with
  | nil => simp [splitFirst?]
  | cons c rest ih =>
      by_cases here : c = separator
      · rw [splitFirst?, if_pos here]
        constructor
        · intro found
          cases found
          exact ⟨congrArg (· :: after) here, List.not_mem_nil⟩
        · rintro ⟨same, absent⟩
          cases before with
          | nil =>
              cases same
              rfl
          | cons other others =>
              cases same
              exact absurd (here ▸ List.mem_cons_self) absent
      · rw [splitFirst?, if_neg here, Option.map_eq_some_iff]
        constructor
        · rintro ⟨⟨front, back⟩, found, same⟩
          cases same
          obtain ⟨rfl, absent⟩ := ih.mp found
          exact ⟨rfl, List.not_mem_cons_of_ne_of_not_mem (Ne.symm here) absent⟩
        · rintro ⟨same, absent⟩
          cases before with
          | nil => exact absurd (List.cons.inj same).1 here
          | cons other others =>
              cases same
              exact ⟨(others, after),
                ih.mpr ⟨rfl, fun member => absent (List.mem_cons_of_mem _ member)⟩, rfl⟩

theorem splitLast?_eq_none_iff : splitLast? separator text = none ↔ separator ∉ text := by
  induction text with
  | nil => simp [splitLast?]
  | cons c rest ih =>
      cases later : splitLast? separator rest with
      | some parts =>
          have present : separator ∈ rest := by
            rw [later] at ih
            exact Decidable.not_not.mp fun absent => Option.some_ne_none _ (ih.mpr absent)
          simp [splitLast?, later, present]
      | none =>
          have absent : separator ∉ rest := ih.mp later
          by_cases here : c = separator
          · simp [splitLast?, later, here]
          · simp [splitLast?, later, here, absent, Ne.symm here]

theorem splitLast?_append_cons (before : List Char) (absent : separator ∉ after) :
    splitLast? separator (before ++ separator :: after) = some (before, after) := by
  induction before with
  | nil => simp [splitLast?, splitLast?_eq_none_iff.mpr absent]
  | cons c rest ih => simp [splitLast?, ih]

theorem splitLast?_eq_some_iff : splitLast? separator text = some (before, after) ↔
    text = before ++ separator :: after ∧ separator ∉ after := by
  constructor
  · intro found
    induction text generalizing before with
    | nil => simp [splitLast?] at found
    | cons c rest ih =>
        cases later : splitLast? separator rest with
        | some parts =>
            rw [splitLast?, later] at found
            cases found
            obtain ⟨rest_eq, absent⟩ := ih later
            exact ⟨congrArg (c :: ·) rest_eq, absent⟩
        | none =>
            by_cases here : c = separator
            · rw [splitLast?, later, if_pos here] at found
              cases found
              exact ⟨congrArg (· :: after) here, splitLast?_eq_none_iff.mp later⟩
            · simp [splitLast?, later, here] at found
  · intro ⟨shape, absent⟩
    rw [shape]
    exact splitLast?_append_cons before absent

/-! ## Joined texts -/

variable {behind item : List Char} {rest : List (List Char)}

theorem intercalate_cons_ne_nil (some_char : item ≠ []) :
    List.intercalate (separator :: behind) (item :: rest) ≠ [] := by
  cases rest with
  | nil => simpa [List.intercalate_singleton] using some_char
  | cons next others => simp [List.intercalate_cons_cons]

theorem splitFirst?_intercalate_cons (absent : separator ∉ item) :
    splitFirst? separator (List.intercalate (separator :: behind) (item :: rest)) =
      if rest = [] then none
      else some (item, behind ++ List.intercalate (separator :: behind) rest) := by
  cases rest with
  | nil =>
      rw [if_pos rfl, List.intercalate_singleton]
      exact splitFirst?_eq_none_iff.mpr absent
  | cons next others =>
      rw [if_neg (List.cons_ne_nil next others), List.intercalate_cons_cons, List.append_assoc]
      exact splitFirst?_eq_some_iff.mpr ⟨rfl, absent⟩

/-- Texts that hold no separator come apart again after they were joined. An empty text is left
out: nothing joined and one empty text joined look the same. -/
theorem intercalate_inj {left right : List (List Char)}
    (left_plain : ∀ item ∈ left, item ≠ [] ∧ separator ∉ item)
    (right_plain : ∀ item ∈ right, item ≠ [] ∧ separator ∉ item)
    (same : List.intercalate (separator :: behind) left =
      List.intercalate (separator :: behind) right) : left = right := by
  induction left generalizing right with
  | nil =>
      cases right with
      | nil => rfl
      | cons other others =>
          obtain ⟨some_char, -⟩ := right_plain other List.mem_cons_self
          exact absurd same.symm (intercalate_cons_ne_nil some_char)
  | cons item rest ih =>
      obtain ⟨⟨some_char, absent⟩, rest_plain⟩ := List.forall_mem_cons.mp left_plain
      cases right with
      | nil => exact absurd same (intercalate_cons_ne_nil some_char)
      | cons other others =>
          obtain ⟨⟨-, absent'⟩, others_plain⟩ := List.forall_mem_cons.mp right_plain
          -- the first item reaches to the first separator, or to the end if no other follows
          have split := congrArg (splitFirst? separator) same
          rw [splitFirst?_intercalate_cons absent, splitFirst?_intercalate_cons absent'] at split
          by_cases last : rest = []
          · by_cases last' : others = []
            · subst last last'
              rw [List.intercalate_singleton, List.intercalate_singleton] at same
              rw [same]
            · simp [last, last'] at split
          · by_cases last' : others = []
            · simp [last, last'] at split
            · simp only [if_neg last, if_neg last', Option.some.injEq, Prod.mk.injEq] at split
              obtain ⟨rfl, joined⟩ := split
              rw [ih rest_plain others_plain (List.append_cancel_left joined)]

end Headroom.Text
