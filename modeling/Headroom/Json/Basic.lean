/-!
# JSON values

A number is kept apart as an integer or as a decimal with a fraction or an exponent, because the two
are never taken for one another here: `1.0` is not an integer.
-/

namespace Headroom

/-- A JSON value. The members of an object stand in their written order. -/
inductive Json where
  | null
  | bool (value : Bool)
  | int (value : Int)
  /-- The number `mantissa * 10 ^ exponent`, written with a fraction or an exponent. -/
  | decimal (mantissa : Int) (exponent : Int)
  | string (value : String)
  | array (items : List Json)
  | object (members : List (String × Json))

namespace Json

instance : Inhabited Json := ⟨null⟩

/-- The truth value, if it is one. -/
def bool? : Json → Option Bool
  | bool value => some value
  | _ => none

/-- The integer, if it is one. -/
def int? : Json → Option Int
  | int value => some value
  | _ => none

/-- The text, if it is a string. -/
def string? : Json → Option String
  | string value => some value
  | _ => none

/-- The items, if it is an array. -/
def array? : Json → Option (List Json)
  | array items => some items
  | _ => none

/-- The members, if it is an object. -/
def object? : Json → Option (List (String × Json))
  | object members => some members
  | _ => none

/-- The member of an object under a name, if there is one. -/
def member? (json : Json) (name : String) : Option Json :=
  json.object?.bind (List.lookup name)

/-- The natural number, if it is an integer from zero to `greatest`. -/
def natUpTo? (greatest : Nat) (json : Json) : Option Nat :=
  json.int?.bind fun n => if 0 ≤ n ∧ n ≤ greatest then some n.toNat else none

/-- The natural number, if it is an integer that fits into 64 bits without sign. -/
def nat? (json : Json) : Option Nat := json.natUpTo? 18446744073709551615

/-- The items of an array, each read by `read`. -/
def list? {α : Type} (read : Json → Option α) (json : Json) : Option (List α) :=
  json.array?.bind (List.mapM read)

/-- Nothing for `null`, and otherwise the value read by `read`. -/
def nullable? {α : Type} (read : Json → Option α) : Json → Option (Option α)
  | null => some none
  | json => (read json).map some

end Json

end Headroom
