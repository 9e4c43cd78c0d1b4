import Headroom.Json.Basic
import Headroom.Manifest.Basic
/-!
# Reading manifests

Manifests are JSON objects of the Kubernetes API. A member that is missing and one that is `null`
both stand for the default; a member of another type than expected makes the manifest unreadable.
Members that do not bear on placement are not looked at.
-/

namespace Headroom.Manifest

/-- The member of an object read by `read`, and a default if it is missing or `null`. -/
def memberOr {α : Type} (default : α) (read : Json → Option α) (name : String) (json : Json) :
    Option α := do
  match (← json.object?).lookup name with
  | none | some .null => return default
  | some value => read value

/-- The member of an object read by `read`, if it is there. -/
def member? {α : Type} (read : Json → Option α) : String → Json → Option (Option α) :=
  memberOr none fun value => (read value).map some

/-- The text under a name, empty if it is missing. -/
def text? : String → Json → Option String := memberOr "" Json.string?

/-- The list under a name, empty if it is missing. -/
def items? {α : Type} (read : Json → Option α) : String → Json → Option (List α) :=
  memberOr [] (Json.list? read)

/-- Reads an object whose members are texts. -/
def readTexts? (json : Json) : Option (Dict String String) := do
  let entries ← (← json.object?).mapM fun (name, value) => do return (name, ← value.string?)
  return .ofList entries

/-- The texts under a name, none if they are missing. -/
def texts? : String → Json → Option (Dict String String) := memberOr ∅ readTexts?

/-- Reads an object of the API; its version and kind need not be named, but may not be others. -/
def ofKind? (kind : String) (json : Json) : Option Json := do
  let members ← json.object?
  let agrees := fun (name expected : String) =>
    (members.lookup name).all fun value => value.string? = some expected
  if agrees "apiVersion" "v1" && agrees "kind" kind then return json else none

/-- The member of an object, and an object without members if it is missing. -/
def part? (name : String) : Json → Option Json :=
  memberOr (.object []) (fun value => value.object?.map .object) name

/-- Reads a taint. -/
def Taint.ofJson? (json : Json) : Option Taint := do
  return { key := ← text? "key" json, value := ← text? "value" json
           effect := ← text? "effect" json }

/-- Reads a node. -/
def Node.ofJson? (json : Json) : Option Node := do
  let json ← ofKind? "Node" json
  let metadata ← part? "metadata" json
  let spec ← part? "spec" json
  let status ← part? "status" json
  return { name := ← member? Json.string? "name" metadata
           labels := ← texts? "labels" metadata
           taints := ← items? Taint.ofJson? "taints" spec
           allocatable := ← texts? "allocatable" status
           cordoned := ← memberOr false Json.bool? "unschedulable" spec }

/-- Reads a requirement of a label selector. -/
def Expression.ofJson? (json : Json) : Option Expression := do
  return { key := ← text? "key" json
           operator := ← text? "operator" json
           values := ← items? Json.string? "values" json }

/-- Reads a label selector. -/
def Selector.ofJson? (json : Json) : Option Selector := do
  return { labels := ← texts? "matchLabels" json
           expressions := ← items? Expression.ofJson? "matchExpressions" json }

/-- Reads a term for or against other pods. -/
def PodTerm.ofJson? (json : Json) : Option PodTerm := do
  return { selector := ← member? Selector.ofJson? "labelSelector" json
           topologyKey := ← text? "topologyKey" json }

/-- The terms that have to hold, in one of the parts of an affinity. -/
def requiredTerms? (name : String) (affinity : Json) : Option (List PodTerm) := do
  items? PodTerm.ofJson? "requiredDuringSchedulingIgnoredDuringExecution" (← part? name affinity)

/-- The requests of a container. -/
def containerRequests? (json : Json) : Option Quantities := do
  texts? "requests" (← part? "resources" json)

/-- Reads what a pod asks for. -/
def PodSpec.ofJson? (json : Json) : Option PodSpec := do
  let affinity ← part? "affinity" json
  return { node := ← member? Json.string? "nodeName" json
           containers := ← items? containerRequests? "containers" json
           initContainers := ← items? containerRequests? "initContainers" json
           overhead := ← texts? "overhead" json
           attracted := ← requiredTerms? "podAffinity" affinity
           repelled := ← requiredTerms? "podAntiAffinity" affinity }

/-- Reads a pod. -/
def Pod.ofJson? (json : Json) : Option Pod := do
  let json ← ofKind? "Pod" json
  let metadata ← part? "metadata" json
  return { name := ← member? Json.string? "name" metadata
           labels := ← texts? "labels" metadata
           spec := ← member? PodSpec.ofJson? "spec" json
           phase := ← member? Json.string? "phase" (← part? "status" json) }

end Headroom.Manifest
