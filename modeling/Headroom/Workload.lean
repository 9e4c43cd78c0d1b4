import Headroom.Resource.List
import Headroom.Selector
import Headroom.Taint
/-!
# Workloads

A workload is a proposed or a running unit of compute: what it asks of a node, and how it relates to
the workloads around it. A profile stands for a batch of equal workloads.
-/

namespace Headroom

/-- Whether a term attracts or repels. -/
inductive AffinityKind where
  | required
  | forbidden
deriving DecidableEq

namespace AffinityKind

/-- The written name of a kind. -/
def text : AffinityKind → String
  | required => "required"
  | forbidden => "forbidden"

/-- Both kinds. -/
def all : List AffinityKind := [required, forbidden]

/-- The kind with a written name. -/
def ofString? (name : String) : Option AffinityKind := all.find? (·.text = name)

end AffinityKind

/-- A demand for, or against, selected workloads on the nodes that share a label value. -/
structure AffinityTerm where
  selector : LabelSelector
  topologyKey : String
  kind : AffinityKind
deriving DecidableEq

/-- Why an affinity term is malformed. -/
inductive AffinityFault where
  | emptyTopologyKey
  | selector (fault : SelectorFault)
deriving DecidableEq

/-- The fault in words. -/
def AffinityFault.message : AffinityFault → String
  | emptyTopologyKey => "topology key must not be empty"
  | selector fault => fault.message

/-- Checks the key of a term, then its selector. -/
def AffinityTerm.validate (term : AffinityTerm) : Except AffinityFault Unit :=
  if term.topologyKey = "" then .error .emptyTopologyKey
  else term.selector.validate.mapError .selector

/-- A proposed or running unit of compute. -/
structure Workload where
  name : String
  labels : Labels := ∅
  requests : ResourceList := ∅
  tolerations : List Toleration := []
  /-- Labels that a node must carry with exactly these values. -/
  nodeSelector : Labels := ∅
  /-- Alternatives of which a node must meet one; `none` asks nothing of it. -/
  nodeAffinity : Option (List NodeSelectorTerm) := none
  affinityTerms : List AffinityTerm := []
deriving DecidableEq

namespace Workload

/-- The workload with one more label. -/
def withLabel (workload : Workload) (key value : String) : Workload :=
  { workload with labels := workload.labels.insert key value }

/-- The workload with one more toleration. -/
def withToleration (workload : Workload) (toleration : Toleration) : Workload :=
  { workload with tolerations := workload.tolerations ++ [toleration] }

/-- The workload with one more label asked of a node. -/
def withNodeSelector (workload : Workload) (key value : String) : Workload :=
  { workload with nodeSelector := workload.nodeSelector.insert key value }

/-- The workload with these alternatives asked of a node. -/
def withNodeAffinity (workload : Workload) (terms : List NodeSelectorTerm) : Workload :=
  { workload with nodeAffinity := some terms }

/-- The workload with one more affinity term. -/
def withAffinityTerm (workload : Workload) (term : AffinityTerm) : Workload :=
  { workload with affinityTerms := workload.affinityTerms ++ [term] }

/-- Whether some toleration lets the workload ignore a taint. -/
def tolerates (workload : Workload) (taint : Taint) : Bool :=
  workload.tolerations.any (·.tolerates taint)

/-- The terms that repel other workloads. -/
def forbiddenTerms (workload : Workload) : List AffinityTerm :=
  workload.affinityTerms.filter (·.kind = .forbidden)

end Workload

/-- What every workload of a uniform batch asks for. -/
structure Profile where
  cpuMillis : Amount
  memoryBytes : Amount
  tolerations : List Toleration := []
  nodeSelector : Labels := ∅
  /-- The label of nodes whose values no two workloads of the batch may share. -/
  spreadBy : Option String := none
deriving DecidableEq

namespace Profile

/-- The label that marks the workloads of a batch. -/
def proposedKey : String := "cassctl.io/proposed"

/-- The term that keeps marked workloads apart. -/
def spreadTerm (topologyKey : String) : AffinityTerm :=
  { selector := .ofLabel proposedKey "true", topologyKey, kind := .forbidden }

/-- One workload of the batch. -/
def workload (profile : Profile) (index : Nat) : Workload where
  name := "proposed-" ++ String.ofList (Text.ofNat index)
  labels := (Dict.empty : Labels).insert proposedKey "true"
  requests := .cpuMemory profile.cpuMillis profile.memoryBytes
  tolerations := profile.tolerations
  nodeSelector := profile.nodeSelector
  affinityTerms := profile.spreadBy.toList.map spreadTerm

/-- The batch of the first `count` workloads. -/
def workloads (profile : Profile) (count : Nat) : List Workload :=
  (List.range count).map profile.workload

end Profile

end Headroom
