import Headroom.Wire.Basic
import Headroom.Workload
/-!
# Workloads on the wire

Quantities and names of resources are strings that have to make sense; everything else is checked
for its shape only, so a malformed selector or toleration can be read.
-/

namespace Headroom

open Wire (decodeName? parts?)

instance : Wire Quantity where
  encode quantity := .string quantity.text
  decode? json := json.string?.bind fun text => (Quantity.parse text).toOption

instance : Wire ResourceName where
  encode name := .string name.text
  decode? json := json.string?.bind fun text => (ResourceName.ofString? text).toOption

instance : Wire ResourceList where
  encode := Wire.encodeDict
  decode? := Wire.decodeDict? fun name => (ResourceName.ofString? name).toOption

instance : Wire TaintEffect where
  encode effect := .string effect.text
  decode? := decodeName? TaintEffect.ofString?

/-- The form of a taint. -/
def Taint.toJson (taint : Taint) : Json :=
  .object
    [("key", Wire.encode taint.key), ("value", Wire.encode taint.value),
      ("effect", Wire.encode taint.effect)]

/-- Reads a taint. -/
def Taint.ofJson? (json : Json) : Option Taint := do
  let parts ← parts? 3 json
  return { key := ← parts.required 0 "key"
           value := ← parts.withDefault 1 "value" ""
           effect := ← parts.required 2 "effect" }

instance : Wire Taint where
  encode := Taint.toJson
  decode? := Taint.ofJson?

instance : Wire TolerationOperator where
  encode operator := .string operator.text
  decode? := decodeName? TolerationOperator.ofString?

/-- The form of a toleration. -/
def Toleration.toJson (toleration : Toleration) : Json :=
  .object
    [("key", Wire.encode toleration.key), ("operator", Wire.encode toleration.operator),
      ("value", Wire.encode toleration.value), ("effect", Wire.encode toleration.effect)]

/-- Reads a toleration. -/
def Toleration.ofJson? (json : Json) : Option Toleration := do
  let parts ← parts? 4 json
  return { key := ← parts.withDefault 0 "key" ""
           operator := ← parts.withDefault 1 "operator" .equal
           value := ← parts.withDefault 2 "value" ""
           effect := ← parts.withDefault 3 "effect" none }

instance : Wire Toleration where
  encode := Toleration.toJson
  decode? := Toleration.ofJson?

instance : Wire Operator where
  encode operator := .string operator.text
  decode? := decodeName? Operator.ofString?

/-- The form of a requirement. -/
def Requirement.toJson (requirement : Requirement) : Json :=
  .object
    [("key", Wire.encode requirement.key), ("operator", Wire.encode requirement.operator),
      ("values", Wire.encode requirement.values)]

/-- Reads a requirement. -/
def Requirement.ofJson? (json : Json) : Option Requirement := do
  let parts ← parts? 3 json
  return { key := ← parts.required 0 "key"
           operator := ← parts.required 1 "operator"
           values := ← parts.withDefault 2 "values" [] }

instance : Wire Requirement where
  encode := Requirement.toJson
  decode? := Requirement.ofJson?

/-- The form of a term of a node selector. -/
def NodeSelectorTerm.toJson (term : NodeSelectorTerm) : Json :=
  .object [("match_expressions", Wire.encode term.requirements)]

/-- Reads a term of a node selector. -/
def NodeSelectorTerm.ofJson? (json : Json) : Option NodeSelectorTerm := do
  let parts ← parts? 1 json
  return { requirements := ← parts.withDefault 0 "match_expressions" [] }

instance : Wire NodeSelectorTerm where
  encode := NodeSelectorTerm.toJson
  decode? := NodeSelectorTerm.ofJson?

/-- The form of a label selector. -/
def LabelSelector.toJson (selector : LabelSelector) : Json :=
  .object
    [("match_labels", Wire.encode selector.labels),
      ("match_expressions", Wire.encode selector.requirements)]

/-- Reads a label selector. -/
def LabelSelector.ofJson? (json : Json) : Option LabelSelector := do
  let parts ← parts? 2 json
  return { labels := ← parts.withDefault 0 "match_labels" ∅
           requirements := ← parts.withDefault 1 "match_expressions" [] }

instance : Wire LabelSelector where
  encode := LabelSelector.toJson
  decode? := LabelSelector.ofJson?

instance : Wire AffinityKind where
  encode kind := .string kind.text
  decode? := decodeName? AffinityKind.ofString?

/-- The form of a term on workloads. -/
def AffinityTerm.toJson (term : AffinityTerm) : Json :=
  .object
    [("selector", Wire.encode term.selector), ("topology_key", Wire.encode term.topologyKey),
      ("kind", Wire.encode term.kind)]

/-- Reads a term on workloads. -/
def AffinityTerm.ofJson? (json : Json) : Option AffinityTerm := do
  let parts ← parts? 3 json
  return { selector := ← parts.required 0 "selector"
           topologyKey := ← parts.required 1 "topology_key"
           kind := ← parts.required 2 "kind" }

instance : Wire AffinityTerm where
  encode := AffinityTerm.toJson
  decode? := AffinityTerm.ofJson?

/-- The form of a workload. -/
def Workload.toJson (workload : Workload) : Json :=
  .object
    [("name", Wire.encode workload.name), ("labels", Wire.encode workload.labels),
      ("requests", Wire.encode workload.requests),
      ("tolerations", Wire.encode workload.tolerations),
      ("node_selector", Wire.encode workload.nodeSelector),
      ("node_affinity", Wire.encode workload.nodeAffinity),
      ("affinity_terms", Wire.encode workload.affinityTerms)]

/-- Reads a workload. -/
def Workload.ofJson? (json : Json) : Option Workload := do
  let parts ← parts? 7 json
  return { name := ← parts.required 0 "name"
           labels := ← parts.withDefault 1 "labels" ∅
           requests := ← parts.withDefault 2 "requests" ∅
           tolerations := ← parts.withDefault 3 "tolerations" []
           nodeSelector := ← parts.withDefault 4 "node_selector" ∅
           nodeAffinity := ← parts.withDefault 5 "node_affinity" none
           affinityTerms := ← parts.withDefault 6 "affinity_terms" [] }

instance : Wire Workload where
  encode := Workload.toJson
  decode? := Workload.ofJson?

/-- The form of a profile. -/
def Profile.toJson (profile : Profile) : Json :=
  .object
    [("cpu_millis", Wire.encode profile.cpuMillis),
      ("memory_bytes", Wire.encode profile.memoryBytes),
      ("tolerations", Wire.encode profile.tolerations),
      ("node_selector", Wire.encode profile.nodeSelector),
      ("spread_by", Wire.encode profile.spreadBy)]

/-- Reads a profile. -/
def Profile.ofJson? (json : Json) : Option Profile := do
  let parts ← parts? 5 json
  return { cpuMillis := ← parts.required 0 "cpu_millis"
           memoryBytes := ← parts.required 1 "memory_bytes"
           tolerations := ← parts.withDefault 2 "tolerations" []
           nodeSelector := ← parts.withDefault 3 "node_selector" ∅
           spreadBy := ← parts.withDefault 4 "spread_by" none }

instance : Wire Profile where
  encode := Profile.toJson
  decode? := Profile.ofJson?

end Headroom
