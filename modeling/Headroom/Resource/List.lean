import Headroom.Resource.Name
/-!
# Lists of resources

A list of resources gives some resources an amount, in the order of their names. A resource without
an entry counts as zero, and sums stop at the bounds of an amount.
-/

namespace Headroom

/-- Amounts of resources. -/
abbrev ResourceList := Dict ResourceName Amount

namespace ResourceList

/-- The amount of a resource, zero if it has no entry. -/
def amount (list : ResourceList) (name : ResourceName) : Amount :=
  (list.get? name).getD .zero

/-- The list of processor time in thousandths and memory in bytes. -/
def cpuMemory (cpu memory : Amount) : ResourceList :=
  ((Dict.empty : ResourceList).insert .cpu cpu).insert .memory memory

/-- Sets a resource to a quantity in its own unit. -/
def insertQuantity (list : ResourceList) (name : ResourceName) (quantity : Quantity) :
    Except ResourceError ResourceList := do
  return list.insert name (← name.canonicalAmount quantity)

/-- Adds every entry of another list. -/
def add (list other : ResourceList) : ResourceList :=
  other.entries.foldl
    (fun total entry => total.update entry.1 fun old => (old.getD .zero).add entry.2) list

/-- A sum has the entries of both lists. -/
theorem get?_add (list other : ResourceList) (name : ResourceName) :
    (list.add other).get? name =
      (other.get? name).elim (list.get? name) fun value => some ((list.amount name).add value) :=
  Dict.get?_foldl_update (fun (old : Option Amount) value => (old.getD .zero).add value) list name
    other.ordered

/-- A sum of lists adds up the amounts of each resource. -/
theorem amount_add (list other : ResourceList) (name : ResourceName) :
    (list.add other).amount name = (list.amount name).add (other.amount name) := by
  unfold amount
  rw [get?_add]
  cases other.get? name with
  | none => exact (Amount.add_zero _).symm
  | some value => rfl

/-- Raises every entry to that of another list; entries missing here are taken over. -/
def maxWith (list other : ResourceList) : ResourceList :=
  other.entries.foldl
    (fun total entry => total.update entry.1 fun old => (old.getD entry.2).max entry.2) list

/-- A raised list has the entries of both lists. -/
theorem get?_maxWith (list other : ResourceList) (name : ResourceName) :
    (list.maxWith other).get? name =
      (other.get? name).elim (list.get? name) fun value =>
        some (((list.get? name).getD value).max value) :=
  Dict.get?_foldl_update (fun (old : Option Amount) value => (old.getD value).max value) list name
    other.ordered

/-- The entries in order, as `name=amount`. -/
def text (list : ResourceList) : String :=
  ", ".intercalate (list.entries.map fun (name, amount) =>
    name.text ++ "=" ++ name.amountText amount)

end ResourceList

end Headroom
