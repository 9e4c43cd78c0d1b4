import Headroom.Resource.List
import Mathlib.Data.List.Sort
/-!
# Sums of resources

A dictionary is known by what stands under its keys (`Dict.ext_get?`), so two sums of the same lists
of resources are equal when each resource has the same total in both. As long as nothing negative is
added, the order of the lists does not matter (`ResourceList.add_right_comm`), and nothing negative
comes of them.
-/

namespace Headroom

/-- Two dictionaries with the same values are equal, since the keys have only one order. -/
theorem Dict.ext_get? {κ β : Type} [TextKey κ] {left right : Dict κ β}
    (same : ∀ key, left.get? key = right.get? key) : left = right := by
  have antisymmetric : Std.Antisymm fun a b : κ × β => TextKey.compare a.1 b.1 = .lt := by
    refine ⟨fun a b below above => ?_⟩
    have round := TextKey.compare_lt_trans below above
    rw [TextKey.compare_self] at round
    contradiction
  have irreflexive : Std.Irrefl fun a b : κ × β => TextKey.compare a.1 b.1 = .lt := by
    refine ⟨fun a below => ?_⟩
    rw [TextKey.compare_self] at below
    contradiction
  have members : ∀ entry, entry ∈ left.entries ↔ entry ∈ right.entries := by
    rintro ⟨key, value⟩
    rw [mem_entries_iff, mem_entries_iff, same]
  exact ext_entries (left.ordered.eq_of_mem_iff right.ordered members)

/-- What is found in a dictionary that was made of ordered entries. -/
theorem Dict.get?_ofList_eq_some_iff {κ β : Type} [TextKey κ] {entries : List (κ × β)}
    (ordered : entries.Pairwise fun left right => TextKey.compare left.1 right.1 = .lt)
    {key : κ} {value : β} :
    (ofList entries).get? key = some value ↔ (key, value) ∈ entries := by
  have merged : (ofList entries).get? key = (lookup key entries).elim none some :=
    get?_foldl_update (fun _ value => value) empty key ordered
  rw [merged, ← lookup_eq_some_iff ordered]
  cases lookup key entries <;> simp

namespace ResourceList

variable {list other : ResourceList} {name : ResourceName} {value : Amount}

/-- Merging several lists into one changes a value once for each list that has an entry. -/
theorem get?_foldl_merge {merge : ResourceList → ResourceList → ResourceList}
    (change : Option Amount → Amount → Amount)
    (law : ∀ list other : ResourceList, (merge list other).get? name =
      (other.get? name).elim (list.get? name) fun value => some (change (list.get? name) value))
    (lists : List ResourceList) (start : ResourceList) :
    (lists.foldl merge start).get? name =
      (lists.filterMap (·.get? name)).foldl (fun held value => some (change held value))
        (start.get? name) := by
  induction lists generalizing start with
  | nil => rfl
  | cons head rest ih =>
      rw [List.foldl_cons, ih, law, List.filterMap_cons]
      cases head.get? name with
      | none => rfl
      | some value => rfl

/-- A list in which no amount is negative. -/
def NonNegative (list : ResourceList) : Prop :=
  ∀ entry ∈ list.entries, 0 ≤ entry.2.val

theorem nonNegative_iff :
    list.NonNegative ↔ ∀ name value, list.get? name = some value → 0 ≤ value.val := by
  constructor
  · intro positive name value listed
    exact positive (name, value) (Dict.mem_entries_iff.mpr listed)
  · rintro positive ⟨name, value⟩ member
    exact positive name value (Dict.mem_entries_iff.mp member)

theorem nonNegative_empty : NonNegative ∅ := by
  intro entry member
  contradiction

theorem NonNegative.amount (positive : list.NonNegative) (name : ResourceName) :
    0 ≤ (list.amount name).val := by
  unfold ResourceList.amount
  cases listed : list.get? name with
  | none => exact Int.le_refl 0
  | some value => exact nonNegative_iff.mp positive name value listed

theorem NonNegative.insert (positive : list.NonNegative) (asked : 0 ≤ value.val) :
    NonNegative (Dict.insert list name value) := by
  rw [nonNegative_iff]
  intro key found listed
  by_cases here : key = name
  · rw [here, Dict.get?_insert_self, Option.some.injEq] at listed
    rw [← listed]
    exact asked
  · rw [Dict.get?_insert_of_ne _ here] at listed
    exact nonNegative_iff.mp positive key found listed

theorem NonNegative.add (positive : list.NonNegative) (others : other.NonNegative) :
    (list.add other).NonNegative := by
  rw [nonNegative_iff]
  intro name total listed
  rw [get?_add] at listed
  cases added : other.get? name with
  | none =>
      rw [added] at listed
      exact nonNegative_iff.mp positive name total listed
  | some value =>
      rw [added, Option.elim_some, Option.some.injEq] at listed
      rw [← listed]
      exact Amount.add_nonneg (positive.amount name) (nonNegative_iff.mp others name value added)

theorem NonNegative.maxWith (positive : list.NonNegative) (others : other.NonNegative) :
    (list.maxWith other).NonNegative := by
  rw [nonNegative_iff]
  intro name raised listed
  rw [get?_maxWith] at listed
  cases held : other.get? name with
  | none =>
      rw [held] at listed
      exact nonNegative_iff.mp positive name raised listed
  | some value =>
      rw [held, Option.elim_some, Option.some.injEq] at listed
      rw [← listed]
      exact Amount.max_nonneg _ (nonNegative_iff.mp others name value held)

/-- Two lists without negative amounts may be added in either order. -/
theorem add_right_comm (list : ResourceList) {left right : ResourceList}
    (positive : left.NonNegative) (others : right.NonNegative) :
    (list.add left).add right = (list.add right).add left := by
  refine Dict.ext_get? fun name => ?_
  rw [get?_add, get?_add, get?_add _ left, get?_add _ right, amount_add, amount_add]
  cases first : left.get? name with
  | none => cases right.get? name <;> simp [amount, first, Amount.add_zero]
  | some early =>
      cases second : right.get? name with
      | none => simp [amount, second, Amount.add_zero]
      | some late =>
          have swapped := Amount.add_right_comm (list.amount name)
            (nonNegative_iff.mp positive name early first)
            (nonNegative_iff.mp others name late second)
          simp only [Option.elim_some, Option.some.injEq]
          simpa [amount, first, second] using swapped

end ResourceList

end Headroom
