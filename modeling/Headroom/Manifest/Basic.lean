import Headroom.Dict
import Headroom.Selector
/-!
# Manifests

The parts of a node and a pod, as the Kubernetes API describes them, that bear on placement. Texts
are taken as they stand: names, quantities, effects and operators are not looked at yet.
-/

namespace Headroom.Manifest

/-- Quantities by resource, neither of which has been checked. -/
abbrev Quantities := Dict String String

/-- A taint with its effect as text. -/
structure Taint where
  key : String := ""
  value : String := ""
  effect : String := ""

/-- A node. -/
structure Node where
  name : Option String := none
  labels : Labels := ∅
  taints : List Taint := []
  allocatable : Quantities := ∅
  cordoned : Bool := false

/-- A requirement of a label selector with its operator as text. -/
structure Expression where
  key : String := ""
  operator : String := ""
  values : List String := []

/-- A label selector. -/
structure Selector where
  labels : Labels := ∅
  expressions : List Expression := []

/-- A term that attracts a pod to, or repels it from, others. -/
structure PodTerm where
  selector : Option Selector := none
  topologyKey : String := ""

/-- What a pod asks for. -/
structure PodSpec where
  node : Option String := none
  /-- The requests of each container. -/
  containers : List Quantities := []
  /-- The requests of each container that runs to its end before the others start. -/
  initContainers : List Quantities := []
  overhead : Quantities := ∅
  attracted : List PodTerm := []
  repelled : List PodTerm := []

/-- A pod. -/
structure Pod where
  name : Option String := none
  labels : Labels := ∅
  spec : Option PodSpec := none
  phase : Option String := none

namespace Pod

/-- The name of a pod, or a stand-in for it. -/
def displayName (pod : Pod) : String := pod.name.getD "<unnamed>"

/-- The node that a pod is bound to. -/
def boundNode? (pod : Pod) : Option String := (pod.spec.bind (·.node)).filter (· ≠ "")

/-- Whether a pod has finished and holds nothing any more. -/
def isTerminal (pod : Pod) : Bool := pod.phase = some "Succeeded" || pod.phase = some "Failed"

end Pod

end Headroom.Manifest
