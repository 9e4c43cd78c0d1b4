import Headroom.Manifest.Conversion
/-!
# Nodes

A node as a run sees it: what it offers, what is already bound to it, and the proposed workloads
placed on it. Running pods and placed workloads both count against what it offers.
-/

namespace Headroom

/-- A node during one run. -/
structure Node where
  name : String
  labels : Labels := ∅
  taints : List Taint := []
  /-- What workloads may take in total. -/
  allocatable : ResourceList := ∅
  /-- The requests of all workloads bound to the node. -/
  allocated : ResourceList := ∅
  /-- Closed to new workloads by an operator. -/
  cordoned : Bool := false
  runningPods : Nat := 0
  /-- Already used by this run. -/
  consumed : Bool := false
  /-- The proposed workloads placed here by this run. -/
  placed : List Workload := []
deriving DecidableEq

namespace Node

/-- Whether the node takes no new workload, for either reason. -/
def isUnschedulable (node : Node) : Bool := node.cordoned || node.consumed

/-- The number of pods that count against the limit of the node. -/
def podCount (node : Node) : Nat := node.runningPods + node.placed.length

/-- What is left of a resource. -/
def remaining (node : Node) (resource : ResourceName) : Amount :=
  (node.allocatable.amount resource).sub (node.allocated.amount resource)

/-- The node with one more running pod. -/
def bind (node : Node) (workload : Workload) : Node :=
  { node with
    allocated := node.allocated.add workload.requests
    runningPods := node.runningPods + 1 }

/-- The node with a proposed workload, which uses it up for this run. -/
def place (node : Node) (workload : Workload) : Node :=
  { node with
    allocated := node.allocated.add workload.requests
    placed := node.placed ++ [workload]
    consumed := true }

@[simp] theorem name_place (node : Node) (workload : Workload) :
    (node.place workload).name = node.name := rfl

@[simp] theorem labels_place (node : Node) (workload : Workload) :
    (node.place workload).labels = node.labels := rfl

@[simp] theorem consumed_place (node : Node) (workload : Workload) :
    (node.place workload).consumed = true := rfl

@[simp] theorem placed_place (node : Node) (workload : Workload) :
    (node.place workload).placed = node.placed ++ [workload] := rfl

@[simp] theorem podCount_place (node : Node) (workload : Workload) :
    (node.place workload).podCount = node.podCount + 1 := by
  simp only [podCount, placed_place, List.length_append, List.length_singleton, Nat.add_assoc]
  rfl

@[simp] theorem podCount_bind (node : Node) (workload : Workload) :
    (node.bind workload).podCount = node.podCount + 1 := by
  show node.runningPods + 1 + node.placed.length = node.runningPods + node.placed.length + 1
  omega

/-- The taint that a manifest states. -/
def taintOf (node : String) (taint : Manifest.Taint) : Except RetrievalError Taint :=
  match TaintEffect.ofString? taint.effect with
  | some effect => .ok { key := taint.key, value := taint.value, effect }
  | none => .error (.nodeTaint node taint.effect)

/-- The node that a manifest describes, with nothing bound to it. Its name is looked at first, then
what it offers, then its taints. -/
def ofManifest (manifest : Manifest.Node) : Except RetrievalError Node :=
  match manifest.name with
  | none => .error .unnamedNode
  | some name => do
      let allocatable ← manifest.allocatable.amounts.mapError (.nodeResource name)
      let taints ← manifest.taints.mapM (taintOf name)
      return { name, labels := manifest.labels, taints, allocatable, cordoned := manifest.cordoned }

end Node

end Headroom
