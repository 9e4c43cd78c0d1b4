import Headroom.Wire.Basic
import Mathlib.Data.List.Basic
/-!
# Writing and reading back

A value is read back from what was written of it when its parts are. Lists, options, dictionaries
and the parts of records only ask this of the values that are really in them, so a type need not be
lossless as a whole for some of its values to come back.
-/

namespace Headroom

/-- Types all of whose values are read back as they were written. -/
class LawfulWire (α : Type) [Wire α] : Prop where
  decode?_encode (value : α) : Wire.decode? (Wire.encode value) = some value

attribute [simp] LawfulWire.decode?_encode

/-- Types none of whose values is written as `null`. -/
class PresentWire (α : Type) [Wire α] : Prop where
  encode_ne_null (value : α) : Wire.encode value ≠ .null

namespace Dict

variable {κ β : Type} [TextKey κ]

/-- An entry above all others goes to the end. -/
theorem insertEntry_append {key : κ} {value : β} {entries : List (κ × β)}
    (above : ∀ entry ∈ entries, TextKey.compare entry.1 key = .lt) :
    insertEntry key value entries = entries ++ [(key, value)] := by
  induction entries with
  | nil => rfl
  | cons head rest ih =>
      have after : TextKey.compare key head.1 = .gt :=
        TextKey.compare_gt_iff.mpr (above head List.mem_cons_self)
      simp only [insertEntry, after, List.cons_append]
      rw [ih fun entry member => above entry (List.mem_cons_of_mem _ member)]

theorem entries_foldl_insert (dict : Dict κ β) {entries : List (κ × β)}
    (ordered : (dict.entries ++ entries).Pairwise
      fun left right => TextKey.compare left.1 right.1 = .lt) :
    (entries.foldl (fun dict pair => dict.insert pair.1 pair.2) dict).entries =
      dict.entries ++ entries := by
  induction entries generalizing dict with
  | nil => exact (List.append_nil _).symm
  | cons head rest ih =>
      have above : ∀ entry ∈ dict.entries, TextKey.compare entry.1 head.1 = .lt :=
        fun entry member => (List.pairwise_append.mp ordered).2.2 entry member head
          List.mem_cons_self
      have inserted : (dict.insert head.1 head.2).entries = dict.entries ++ [head] :=
        insertEntry_append above
      have behind : ((dict.insert head.1 head.2).entries ++ rest).Pairwise
          fun left right => TextKey.compare left.1 right.1 = .lt := by
        rwa [inserted, List.append_assoc]
      rw [List.foldl_cons, ih _ behind, inserted, List.append_assoc]
      rfl

/-- The entries of a dictionary make up the dictionary. -/
theorem ofList_entries (dict : Dict κ β) : ofList dict.entries = dict := by
  have entries : (ofList dict.entries).entries = dict.entries :=
    entries_foldl_insert empty dict.ordered
  cases made : ofList dict.entries with | mk made_entries made_ordered =>
  cases dict
  rw [made] at entries
  cases entries
  rfl

end Dict

/-- Items that are read back one by one are read back together. -/
theorem mapM_map_eq_some {α β : Type} {write : α → β} {read : β → Option α} {items : List α}
    (each : ∀ item ∈ items, read (write item) = some item) :
    (items.map write).mapM read = some items := by
  induction items with
  | nil => rfl
  | cons item rest ih =>
      obtain ⟨first, others⟩ := List.forall_mem_cons.mp each
      rw [List.map_cons, List.mapM_cons, first, ih others]
      rfl

namespace Wire

variable {α β κ : Type} [Wire α] [Wire β] {json : Json}

/-! ## Lists, options and dictionaries -/

theorem decode?_encode_list {items : List α}
    (each : ∀ item ∈ items, decode? (encode item) = some item) :
    decode? (encode items) = some items :=
  mapM_map_eq_some each

/-- What is in a list that is read has been read on its own. -/
theorem exists_decode?_of_mem {items : List α} (read : decode? json = some items) {item : α}
    (member : item ∈ items) : ∃ part : Json, decode? part = some item := by
  obtain ⟨parts, -, found⟩ := Option.bind_eq_some_iff.mp read
  clear read
  induction parts generalizing items with
  | nil =>
      cases found
      contradiction
  | cons part rest ih =>
      simp only [List.mapM_cons, Option.bind_eq_bind, Option.bind_eq_some_iff] at found
      obtain ⟨first, here, others, behind, same⟩ := found
      cases same
      rcases List.mem_cons.mp member with rfl | deep
      · exact ⟨part, here⟩
      · exact ih deep behind

theorem decode?_encode_option {value : Option α}
    (each : ∀ held ∈ value, encode held ≠ .null ∧ decode? (encode held) = some held) :
    decode? (encode value) = some value := by
  cases value with
  | none => rfl
  | some held =>
      obtain ⟨present, back⟩ := each held rfl
      show Json.nullable? decode? (encode held) = some (some held)
      unfold Json.nullable?
      split
      · next absent => exact absurd absent present
      · rw [back]
        rfl

/-- What is in an option that is read has been read. -/
theorem decode?_of_mem {value : Option α} (read : decode? json = some value) {held : α}
    (member : held ∈ value) : decode? json = some held := by
  cases member
  change Json.nullable? decode? json = some (some held) at read
  unfold Json.nullable? at read
  split at read
  · simp at read
  · obtain ⟨found, here, same⟩ := Option.map_eq_some_iff.mp read
    cases same
    exact here

theorem decodeDict?_encodeDict [TextKey κ] {key? : String → Option κ} {dict : Dict κ β}
    (keys : ∀ key : κ, key? (String.ofList (TextKey.chars key)) = some key)
    (each : ∀ entry ∈ dict.entries, decode? (encode entry.2) = some entry.2) :
    decodeDict? key? (encodeDict dict) = some dict := by
  unfold decodeDict? encodeDict
  rw [Json.object?, Option.bind_eq_bind, Option.bind_some]
  rw [mapM_map_eq_some (fun entry member => ?_)]
  · exact congrArg some dict.ofList_entries
  · obtain ⟨key, value⟩ := entry
    show (do return (← key? (String.ofList (TextKey.chars key)), ← decode? (encode value))) = _
    rw [keys, each _ member]
    rfl

end Wire

/-! ## Types with a JSON form of their own -/

section

variable {α β : Type} [Wire α] [Wire β]

instance : LawfulWire String where
  decode?_encode _ := rfl

instance : LawfulWire Amount where
  decode?_encode := Amount.ofInt?_val

instance [LawfulWire α] : LawfulWire (List α) where
  decode?_encode _ := Wire.decode?_encode_list fun item _ => LawfulWire.decode?_encode item

instance [LawfulWire α] [PresentWire α] : LawfulWire (Option α) where
  decode?_encode _ := Wire.decode?_encode_option fun held _ =>
    ⟨PresentWire.encode_ne_null held, LawfulWire.decode?_encode held⟩

instance [LawfulWire β] : LawfulWire (Dict String β) where
  decode?_encode _ := Wire.decodeDict?_encodeDict (fun _ => congrArg some String.ofList_toList)
    fun entry _ => LawfulWire.decode?_encode entry.2

instance : PresentWire String where
  encode_ne_null := nofun

instance : PresentWire (List α) where
  encode_ne_null := nofun

end

namespace Wire

variable {α : Type} [Wire α]

/-- The natural numbers that can be read are those of 64 bits. -/
theorem decode?_nat_eq_some_iff {n : Nat} {json : Json} : decode? json = some n ↔
    json = encode n ∧ n ≤ 18446744073709551615 := by
  constructor
  · intro read
    obtain ⟨value, number, read⟩ := Option.bind_eq_some_iff.mp read
    rw [Option.ite_none_right_eq_some, Option.some.injEq] at read
    obtain ⟨⟨nonneg, bound⟩, rfl⟩ := read
    cases json with
    | int written =>
        cases number
        refine ⟨congrArg Json.int (Int.toNat_of_nonneg nonneg).symm, ?_⟩
        omega
    | _ => contradiction
  · rintro ⟨rfl, bound⟩
    have inRange : 0 ≤ (n : Int) ∧ (n : Int) ≤ (18446744073709551615 : Nat) := by omega
    exact (if_pos inRange).trans rfl

instance : LawfulWire UInt64 where
  decode?_encode n := by
    have bound : n.toNat ≤ 18446744073709551615 := by
      have below := n.toNat_lt
      omega
    show (Json.nat? (encode n.toNat)).map UInt64.ofNat = some n
    rw [show Json.nat? (encode n.toNat) = some n.toNat from
      decode?_nat_eq_some_iff.mpr ⟨rfl, bound⟩]
    exact congrArg some UInt64.ofNat_toNat

/-! ## Parts of records -/

@[simp] theorem parts?_object (count : Nat) (members : List (String × Json)) :
    parts? count (.object members) = some (.named members) := rfl

@[simp] theorem required_named (members : List (String × Json)) (position : Nat) (name : String) :
    (Parts.named members).required position name = (members.lookup name).bind (decode? (α := α)) :=
  rfl

@[simp] theorem withDefault_named (members : List (String × Json)) (position : Nat)
    (name : String) (default : α) : (Parts.named members).withDefault position name default =
      (members.lookup name).elim (some default) decode? := by
  rw [Parts.withDefault, Parts.get?]
  cases members.lookup name <;> rfl

@[simp] theorem optional_named (members : List (String × Json)) (position : Nat) (name : String) :
    (Parts.named members).optional position name =
      (members.lookup name).elim (some none) (decode? (α := Option α)) :=
  withDefault_named members position name none

end Wire

end Headroom
