import Headroom.Text.Order
/-!
# Dictionaries with ordered keys

A dictionary is a list of entries whose keys strictly increase in the order of their texts, so the
entries stand in an order that does not depend on how they came in. Look-up after insertion is
`get?_insert_self` and `get?_insert_of_ne`, after a merge it is `get?_foldl_update`, and the entries
are what look-up finds (`mem_entries_iff`).
-/

namespace Headroom

/-- Types whose values can be keys: each is known by its text. -/
class TextKey (κ : Type) where
  chars : κ → List Char
  chars_injective : ∀ {left right : κ}, chars left = chars right → left = right

instance : TextKey String where
  chars := String.toList
  chars_injective same := String.toList_injective same

variable {κ β γ : Type} [TextKey κ]

/-- Keys compare as their texts do. -/
def TextKey.compare (left right : κ) : Ordering :=
  Text.compare (chars left) (chars right)

theorem TextKey.compare_self (key : κ) : compare key key = .eq :=
  Text.compare_self _

theorem TextKey.compare_eq_iff {left right : κ} : compare left right = .eq ↔ left = right :=
  ⟨fun equal => chars_injective (Text.eq_of_compare_eq equal), fun same => same ▸ compare_self _⟩

theorem TextKey.compare_gt_iff {left right : κ} :
    compare left right = .gt ↔ compare right left = .lt := by
  rw [compare, ← Text.compare_swap, Ordering.swap_eq_gt]
  rfl

theorem TextKey.compare_lt_trans {first second third : κ} (early : compare first second = .lt)
    (late : compare second third = .lt) : compare first third = .lt :=
  Text.compare_lt_trans early late

/-- A finite map whose entries stand in strictly increasing order of their keys. -/
structure Dict (κ β : Type) [TextKey κ] where
  entries : List (κ × β)
  ordered : entries.Pairwise fun left right => TextKey.compare left.1 right.1 = .lt

namespace Dict

theorem ext_entries {left right : Dict κ β} (same : left.entries = right.entries) :
    left = right := by
  cases left
  cases right
  cases same
  rfl

/-- The value under a key in a list of entries. -/
def lookup (key : κ) : List (κ × β) → Option β
  | [] => none
  | (other, value) :: rest =>
      if TextKey.compare key other = .eq then some value else lookup key rest

/-- Puts an entry at its place among ordered entries; an entry with the same key gives way. -/
def insertEntry (key : κ) (value : β) : List (κ × β) → List (κ × β)
  | [] => [(key, value)]
  | (other, old) :: rest =>
      match TextKey.compare key other with
      | .lt => (key, value) :: (other, old) :: rest
      | .eq => (key, value) :: rest
      | .gt => (other, old) :: insertEntry key value rest

theorem mem_of_mem_insertEntry {key : κ} {value : β} {entries : List (κ × β)} {entry : κ × β}
    (member : entry ∈ insertEntry key value entries) : entry = (key, value) ∨ entry ∈ entries := by
  induction entries with
  | nil => simpa [insertEntry] using member
  | cons head rest ih =>
      simp only [insertEntry] at member
      split at member
      · simpa using member
      · rcases List.mem_cons.mp member with same | old
        · exact .inl same
        · exact .inr (List.mem_cons_of_mem _ old)
      · rcases List.mem_cons.mp member with same | deep
        · exact .inr (same ▸ List.mem_cons_self)
        · exact (ih deep).imp_right (List.mem_cons_of_mem _)

theorem ordered_insertEntry (key : κ) (value : β) {entries : List (κ × β)}
    (ordered : entries.Pairwise fun left right => TextKey.compare left.1 right.1 = .lt) :
    (insertEntry key value entries).Pairwise
      fun left right => TextKey.compare left.1 right.1 = .lt := by
  induction entries with
  | nil => simp [insertEntry]
  | cons head rest ih =>
      obtain ⟨above, tail⟩ := List.pairwise_cons.mp ordered
      simp only [insertEntry]
      split
      · next below =>
          refine List.pairwise_cons.mpr ⟨fun entry member => ?_, ordered⟩
          rcases List.mem_cons.mp member with same | old
          · exact same ▸ below
          · exact TextKey.compare_lt_trans below (above entry old)
      · next same =>
          refine List.pairwise_cons.mpr ⟨fun entry member => ?_, tail⟩
          rw [TextKey.compare_eq_iff.mp same]
          exact above entry member
      · next after =>
          refine List.pairwise_cons.mpr ⟨fun entry member => ?_, ih tail⟩
          rcases mem_of_mem_insertEntry member with same | old
          · rw [same]
            exact TextKey.compare_gt_iff.mp after
          · exact above entry old

theorem lookup_eq_none_of_lt {key : κ} {entries : List (κ × β)}
    (below : ∀ entry ∈ entries, TextKey.compare key entry.1 = .lt) : lookup key entries = none := by
  induction entries with
  | nil => rfl
  | cons head rest ih =>
      have first := below head List.mem_cons_self
      simp only [lookup, first, reduceCtorEq, if_false]
      exact ih fun entry member => below entry (List.mem_cons_of_mem _ member)

theorem lookup_insertEntry_self (key : κ) (value : β) (entries : List (κ × β)) :
    lookup key (insertEntry key value entries) = some value := by
  induction entries with
  | nil => simp [insertEntry, lookup, TextKey.compare_self]
  | cons head rest ih =>
      simp only [insertEntry]
      split
      · simp [lookup, TextKey.compare_self]
      · simp [lookup, TextKey.compare_self]
      · next after => simp [lookup, after, ih]

theorem lookup_insertEntry_of_ne {key other : κ} (differ : other ≠ key) (value : β)
    (entries : List (κ × β)) :
    lookup other (insertEntry key value entries) = lookup other entries := by
  have apart : TextKey.compare other key ≠ .eq := fun same =>
    differ (TextKey.compare_eq_iff.mp same)
  induction entries with
  | nil => simp [insertEntry, lookup, apart]
  | cons head rest ih =>
      simp only [insertEntry]
      split
      · simp [lookup, apart]
      · next same =>
          rw [TextKey.compare_eq_iff] at same
          simp [lookup, apart, ← same]
      · simp [lookup, ih]

/-- Among ordered entries a key has the value it stands with. -/
theorem lookup_eq_some_iff {key : κ} {value : β} {entries : List (κ × β)}
    (ordered : entries.Pairwise fun left right => TextKey.compare left.1 right.1 = .lt) :
    lookup key entries = some value ↔ (key, value) ∈ entries := by
  induction entries with
  | nil => simp [lookup]
  | cons head rest ih =>
      obtain ⟨other, held⟩ := head
      obtain ⟨above, tail⟩ := List.pairwise_cons.mp ordered
      simp only [lookup, List.mem_cons, Prod.mk.injEq]
      split
      · next same =>
          have key_eq : key = other := TextKey.compare_eq_iff.mp same
          have absent : (key, value) ∉ rest := by
            intro member
            have below := above _ member
            rw [key_eq, TextKey.compare_self] at below
            contradiction
          rw [key_eq] at absent ⊢
          simp [absent, eq_comm]
      · next apart =>
          have differ : key ≠ other := fun same => apart (TextKey.compare_eq_iff.mpr same)
          simp [differ, ih tail]

/-- The dictionary without entries. -/
def empty : Dict κ β := { entries := [], ordered := .nil }

instance : EmptyCollection (Dict κ β) := ⟨empty⟩

instance : Inhabited (Dict κ β) := ⟨empty⟩

instance [DecidableEq κ] [DecidableEq β] : DecidableEq (Dict κ β) := fun left right =>
  decidable_of_iff (left.entries = right.entries)
    ⟨fun same => by cases left; cases right; simp_all, fun same => same ▸ rfl⟩

/-- The value under a key. -/
def get? (dict : Dict κ β) (key : κ) : Option β := lookup key dict.entries

/-- Whether a key has a value. -/
def contains (dict : Dict κ β) (key : κ) : Bool := (dict.get? key).isSome

/-- Gives a key a value, in place of any it had. -/
def insert (dict : Dict κ β) (key : κ) (value : β) : Dict κ β where
  entries := insertEntry key value dict.entries
  ordered := ordered_insertEntry key value dict.ordered

/-- Gives a key a new value made from the one it had, if any. -/
def update (dict : Dict κ β) (key : κ) (change : Option β → β) : Dict κ β :=
  dict.insert key (change (dict.get? key))

/-- The dictionary of a list of pairs; the last pair with a key counts. -/
def ofList (pairs : List (κ × β)) : Dict κ β :=
  pairs.foldl (fun dict pair => dict.insert pair.1 pair.2) empty

/-- The entries in the order of their keys. -/
def toList (dict : Dict κ β) : List (κ × β) := dict.entries

/-- The keys in order. -/
def keys (dict : Dict κ β) : List κ := dict.entries.map (·.1)

/-- The values in the order of their keys. -/
def values (dict : Dict κ β) : List β := dict.entries.map (·.2)

/-- The number of entries. -/
def size (dict : Dict κ β) : Nat := dict.entries.length

/-- Whether there is no entry. -/
def isEmpty (dict : Dict κ β) : Bool := dict.entries.isEmpty

theorem mem_entries_iff {dict : Dict κ β} {key : κ} {value : β} :
    (key, value) ∈ dict.entries ↔ dict.get? key = some value :=
  (lookup_eq_some_iff dict.ordered).symm

theorem get?_empty (key : κ) : (empty : Dict κ β).get? key = none := rfl

theorem get?_insert_self (dict : Dict κ β) (key : κ) (value : β) :
    (dict.insert key value).get? key = some value :=
  lookup_insertEntry_self key value dict.entries

theorem get?_insert_of_ne (dict : Dict κ β) {key other : κ} (differ : other ≠ key) (value : β) :
    (dict.insert key value).get? other = dict.get? other :=
  lookup_insertEntry_of_ne differ value dict.entries

theorem get?_update_self (dict : Dict κ β) (key : κ) (change : Option β → β) :
    (dict.update key change).get? key = some (change (dict.get? key)) :=
  get?_insert_self dict key _

theorem get?_update_of_ne (dict : Dict κ β) {key other : κ} (differ : other ≠ key)
    (change : Option β → β) : (dict.update key change).get? other = dict.get? other :=
  get?_insert_of_ne dict differ _

/-- Merging ordered entries into a dictionary changes a value once if its key is among them. -/
theorem get?_foldl_update (change : Option β → γ → β) (dict : Dict κ β) (key : κ)
    {entries : List (κ × γ)}
    (ordered : entries.Pairwise fun left right => TextKey.compare left.1 right.1 = .lt) :
    (entries.foldl (fun merged entry => merged.update entry.1 fun old => change old entry.2)
        dict).get? key =
      (lookup key entries).elim (dict.get? key) fun value =>
        some (change (dict.get? key) value) := by
  induction entries generalizing dict with
  | nil => rfl
  | cons head rest ih =>
      obtain ⟨other, value⟩ := head
      obtain ⟨above, tail⟩ := List.pairwise_cons.mp ordered
      rw [List.foldl_cons, ih _ tail, lookup]
      split
      · next same =>
          -- the key does not come again, so the rest leaves its value alone
          have key_eq : key = other := TextKey.compare_eq_iff.mp same
          have absent : lookup key rest = none := by
            rw [key_eq]
            exact lookup_eq_none_of_lt above
          rw [absent, key_eq]
          exact get?_update_self dict other _
      · next apart =>
          have differ : key ≠ other := fun same => apart (TextKey.compare_eq_iff.mpr same)
          rw [get?_update_of_ne dict differ]

end Dict

end Headroom
