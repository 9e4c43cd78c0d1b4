import Headroom.Amount
import Headroom.Dict
/-!
# Label selectors

A requirement says something about one label. A node selector term and a label selector are
conjunctions of requirements; the empty term selects nothing and the empty selector everything.
Numeric requirements compare labels as integers and are for labels of nodes only.
-/

namespace Headroom

/-- Labels of a node or a workload. -/
abbrev Labels := Dict String String

/-- What a requirement asks of its label. -/
inductive Operator where
  | oneOf
  | noneOf
  | present
  | absent
  | above
  | below
deriving DecidableEq

/-- A statement about the label under one key. -/
structure Requirement where
  key : String
  operator : Operator
  values : List String := []
deriving DecidableEq

/-- Why a requirement is malformed. -/
inductive RequirementFault where
  | emptyKey
  | valuesMissing (key : String) (operator : Operator)
  | valuesUnwanted (key : String) (operator : Operator)
  /-- A numeric operator where only labels of workloads are looked at. -/
  | numeric (key : String) (operator : Operator)
  | notOneInteger (key : String) (operator : Operator)
deriving DecidableEq

namespace Operator

/-- The written name of an operator. -/
def text : Operator → String
  | oneOf => "In"
  | noneOf => "NotIn"
  | present => "Exists"
  | absent => "DoesNotExist"
  | above => "Gt"
  | below => "Lt"

/-- All operators. -/
def all : List Operator := [oneOf, noneOf, present, absent, above, below]

/-- The operator with a written name. -/
def ofString? (name : String) : Option Operator := all.find? (·.text = name)

end Operator

/-- The fault in words. -/
def RequirementFault.message : RequirementFault → String
  | emptyKey => "requirement key must not be empty"
  | valuesMissing key operator =>
      key ++ ": values must be non-empty for operator " ++ operator.text
  | valuesUnwanted key operator => key ++ ": values must be empty for operator " ++ operator.text
  | numeric key operator =>
      key ++ ": operator " ++ operator.text ++ " is not allowed in a label selector"
  | notOneInteger key operator =>
      key ++ ": operator " ++ operator.text ++ " requires a single integer value"

/-- The integer that a label value denotes, if it is one. -/
def labelInteger? (value : String) : Option Amount := Amount.read? value.toList

namespace Requirement

/-- The requirement that a label has one of some values. -/
def isOneOf (key : String) (values : List String) : Requirement :=
  { key, operator := .oneOf, values }

/-- The requirement that a label is there. -/
def isPresent (key : String) : Requirement := { key, operator := .present }

/-- Whether the values are exactly one integer. -/
def isOneInteger : List String → Bool
  | [value] => (labelInteger? value).isSome
  | _ => false

/-- Checks the form of a requirement. Numeric operators are fine only if `numbers` allows them. -/
def validate (numbers : Bool) (requirement : Requirement) : Except RequirementFault Unit :=
  let { key, operator, values } := requirement
  if key = "" then .error .emptyKey
  else match operator with
    | .oneOf | .noneOf => if values = [] then .error (.valuesMissing key operator) else .ok ()
    | .present | .absent => if values = [] then .ok () else .error (.valuesUnwanted key operator)
    | .above | .below =>
        if !numbers then .error (.numeric key operator)
        else if isOneInteger values then .ok ()
        else .error (.notOneInteger key operator)

/-- Compares a label with the first value as integers; whatever is no integer fails. -/
def compares (relation : Int → Int → Bool) (label : Option String) (values : List String) : Bool :=
  match label.bind labelInteger?, values.head?.bind labelInteger? with
  | some value, some bound => relation value.val bound.val
  | _, _ => false

/-- Whether a requirement holds for some labels. -/
def holds (requirement : Requirement) (labels : Labels) : Bool :=
  let label := labels.get? requirement.key
  match requirement.operator with
  | .oneOf => label.any requirement.values.contains
  | .noneOf => label.all fun value => !requirement.values.contains value
  | .present => label.isSome
  | .absent => label.isNone
  | .above => compares (fun value bound => bound < value) label requirement.values
  | .below => compares (fun value bound => value < bound) label requirement.values

end Requirement

/-- A conjunction of requirements on the labels of a node. -/
structure NodeSelectorTerm where
  requirements : List Requirement := []
deriving DecidableEq

namespace NodeSelectorTerm

/-- Checks the requirements in order. -/
def validate (term : NodeSelectorTerm) : Except RequirementFault Unit :=
  term.requirements.forM (Requirement.validate true)

/-- Whether a term selects a node with these labels. A term without requirements selects none. -/
def selects (term : NodeSelectorTerm) (labels : Labels) : Bool :=
  !term.requirements.isEmpty && term.requirements.all (·.holds labels)

end NodeSelectorTerm

/-- A conjunction of exact labels and requirements on the labels of a workload. -/
structure LabelSelector where
  labels : Labels := ∅
  requirements : List Requirement := []
deriving DecidableEq

/-- Why a label selector is malformed. -/
inductive SelectorFault where
  | emptyLabelKey
  | requirement (fault : RequirementFault)
deriving DecidableEq

/-- The fault in words. -/
def SelectorFault.message : SelectorFault → String
  | emptyLabelKey => "matchLabels key must not be empty"
  | requirement fault => fault.message

/-- Whether some labels hold every entry of a wanted set. -/
def Labels.containsAll (labels wanted : Labels) : Bool :=
  wanted.entries.all fun (key, value) => labels.get? key = some value

namespace LabelSelector

/-- The selector of all workloads with one label. -/
def ofLabel (key value : String) : LabelSelector :=
  { labels := (Dict.empty : Labels).insert key value }

/-- The selector with one more requirement. -/
def and (selector : LabelSelector) (requirement : Requirement) : LabelSelector :=
  { selector with requirements := selector.requirements ++ [requirement] }

/-- Checks the keys of the exact labels, then the requirements in order. -/
def validate (selector : LabelSelector) : Except SelectorFault Unit :=
  if selector.labels.keys.contains "" then .error .emptyLabelKey
  else (selector.requirements.forM (Requirement.validate false)).mapError .requirement

/-- Whether a selector selects a workload with these labels. -/
def selects (selector : LabelSelector) (labels : Labels) : Bool :=
  labels.containsAll selector.labels && selector.requirements.all (·.holds labels)

end LabelSelector

end Headroom
