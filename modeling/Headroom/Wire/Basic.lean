import Headroom.Amount
import Headroom.Dict
import Headroom.Json.Basic
/-!
# The wire format

Every type of the public interface has one JSON form in which it is written. Reading is a little
wider: members that are not known are passed over, members with a default may be missing, a record
may stand as the list of its parts in order, and a name may stand as the single member of an object.
-/

namespace Headroom

/-- Types with a JSON form. -/
class Wire (α : Type) where
  encode : α → Json
  decode? : Json → Option α

namespace Wire

variable {α β : Type}

instance : Wire String where
  encode := .string
  decode? := Json.string?

instance : Wire Amount where
  encode amount := .int amount.val
  decode? json := json.int?.bind Amount.ofInt?

/-- Numbers of things; on the wire they fit into 64 bits. -/
instance : Wire Nat where
  encode n := .int n
  decode? := Json.nat?

instance : Wire UInt64 where
  encode n := .int n.toNat
  decode? json := json.nat?.map UInt64.ofNat

instance [Wire α] : Wire (List α) where
  encode items := .array (items.map encode)
  decode? := Json.list? decode?

instance [Wire α] : Wire (Option α) where
  encode
    | none => .null
    | some value => encode value
  decode? := Json.nullable? decode?

/-- The form of a dictionary: an object with the keys as the names of its members. -/
def encodeDict {κ : Type} [TextKey κ] [Wire β] (dict : Dict κ β) : Json :=
  .object (dict.entries.map fun (key, value) =>
    (String.ofList (TextKey.chars key), encode value))

/-- Reads a dictionary whose keys are read by `key?`. -/
def decodeDict? {κ : Type} [TextKey κ] [Wire β] (key? : String → Option κ) (json : Json) :
    Option (Dict κ β) := do
  let entries ← (← json.object?).mapM fun (name, value) => do
    return (← key? name, ← decode? value)
  return .ofList entries

instance [Wire β] : Wire (Dict String β) where
  encode := encodeDict
  decode? := decodeDict? some

/-- Reads a name, alone or as the only member of an object, without a value. -/
def decodeName? (ofString? : String → Option α) : Json → Option α
  | .string name => ofString? name
  | .object [(name, .null)] => ofString? name
  | _ => none

/-- The parts of a record: by name, or in the order of the record. -/
inductive Parts where
  | named (members : List (String × Json))
  | listed (items : List Json)

/-- The parts of a record with so many parts. -/
def parts? (count : Nat) : Json → Option Parts
  | .object members => some (.named members)
  | .array items => if items.length ≤ count then some (.listed items) else none
  | _ => none

namespace Parts

/-- The form of a part, if it is there. -/
def get? (parts : Parts) (position : Nat) (name : String) : Option Json :=
  match parts with
  | named members => members.lookup name
  | listed items => items[position]?

/-- A part that has to be there. -/
def required [Wire α] (parts : Parts) (position : Nat) (name : String) : Option α :=
  (parts.get? position name).bind decode?

/-- A part that stands for a default when it is missing. -/
def withDefault [Wire α] (parts : Parts) (position : Nat) (name : String) (default : α) :
    Option α :=
  match parts.get? position name with
  | none => some default
  | some json => decode? json

/-- A part that may be missing only where parts are named. -/
def optional [Wire α] (parts : Parts) (position : Nat) (name : String) : Option (Option α) :=
  match parts with
  | named _ => parts.withDefault position name none
  | listed _ => parts.required position name

end Parts

end Wire

end Headroom
