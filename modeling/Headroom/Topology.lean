import Headroom.Snapshot
/-!
# The topology index

The index holds the running workloads under the names of their nodes, for the rules that relate
workloads to each other. It is filled once, from a snapshot or from a watch, and then ready.
-/

namespace Headroom

/-- Running workloads by the name of their node. -/
structure TopologyIndex where
  byNode : Dict String (List Workload) := ∅
  ready : Bool := false
deriving DecidableEq

namespace TopologyIndex

/-- Adds a workload under the name of a node. -/
def insert (index : TopologyIndex) (node : String) (workload : Workload) : TopologyIndex :=
  { index with byNode := index.byNode.update node fun old => old.getD [] ++ [workload] }

/-- Drops every workload. An index that was ready stays so. -/
def clear (index : TopologyIndex) : TopologyIndex := { index with byNode := ∅ }

/-- Marks the index as filled. -/
def markReady (index : TopologyIndex) : TopologyIndex := { index with ready := true }

/-- The workloads under the name of a node. -/
def workloadsOn (index : TopologyIndex) (node : String) : List Workload :=
  (index.byNode.get? node).getD []

/-- All workloads. -/
def workloads (index : TopologyIndex) : List Workload := index.byNode.values.flatten

/-- The number of workloads. -/
def size (index : TopologyIndex) : Nat := index.workloads.length

/-- Whether some workload repels others. -/
def hasAntiAffinity (index : TopologyIndex) : Bool :=
  index.workloads.any fun workload => !workload.forbiddenTerms.isEmpty

/-- The ready index of the workloads that run in a snapshot. -/
def ofSnapshot (snapshot : Snapshot) : TopologyIndex :=
  (snapshot.running.foldl (fun (index : TopologyIndex) entry => index.insert entry.1 entry.2)
    {}).markReady

end TopologyIndex

end Headroom
