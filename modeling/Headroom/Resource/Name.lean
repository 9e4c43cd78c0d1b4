import Headroom.Dict
import Headroom.Quantity.Scale
/-!
# Names of resources

A resource is known by a short ASCII name. Processor time is counted in thousandths of a core and
every other resource in whole units.
-/

namespace Headroom

/-- Whether a character may stand in the name of a resource. -/
def ResourceName.allowed (c : Char) : Bool :=
  c.isAlphanum || c = '.' || c = '_' || c = '-' || c = '/'

/-- Whether a text names a resource: 1 to 316 allowed characters. -/
abbrev ResourceName.Valid (text : String) : Prop :=
  text.toList ≠ [] ∧ text.toList.length ≤ 316 ∧ text.toList.all allowed = true

/-- The name of a resource. -/
structure ResourceName where
  text : String
  valid : ResourceName.Valid text
deriving DecidableEq

namespace ResourceName

instance : TextKey ResourceName where
  chars name := name.text.toList
  chars_injective {left right} same := by
    cases left
    cases right
    simpa using String.toList_injective same

/-- The name of this text, if it is one. -/
def ofString? (text : String) : Except ResourceError ResourceName :=
  if valid : Valid text then .ok { text, valid } else .error (.invalidName text)

/-- Processor time. -/
def cpu : ResourceName := { text := "cpu", valid := by decide }

/-- Memory in bytes. -/
def memory : ResourceName := { text := "memory", valid := by decide }

/-- The number of pods that a node takes. -/
def pods : ResourceName := { text := "pods", valid := by decide }

/-- Whether the resource is processor time. -/
def isCpu (name : ResourceName) : Bool := name.text = "cpu"

/-- A quantity in the unit in which the resource is counted. -/
def canonicalAmount (name : ResourceName) (quantity : Quantity) : Except ResourceError Amount :=
  if name.isCpu then quantity.milliValue else quantity.value

/-- An amount in the unit of the resource: `250m`, whole mebibytes as `512Mi`, else the number. -/
def amountText (name : ResourceName) (amount : Amount) : String :=
  if name.isCpu then amount.text ++ "m"
  else if name.text = "memory" ∧ amount.val ≠ 0 ∧ amount.val.tmod 1048576 = 0 then
    String.ofList (Text.ofInt (amount.val.tdiv 1048576)) ++ "Mi"
  else amount.text

end ResourceName

end Headroom
