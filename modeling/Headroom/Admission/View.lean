import Headroom.Topology
/-!
# What admission rules look at

Rules see every node of the run and the index of running workloads. The workloads that a node hosts
are those that run on it and those that the run has placed on it; a domain is the set of nodes that
share the value of a label.
-/

namespace Headroom

/-- The nodes of a run in listing order, and the running workloads. -/
structure ClusterView where
  nodes : List Node
  index : TopologyIndex

namespace ClusterView

/-- The workloads on a node: the running ones, then the placed ones. -/
def hosted (view : ClusterView) (node : Node) : List Workload :=
  view.index.workloadsOn node.name ++ node.placed

/-- The workloads on all nodes. -/
def allHosted (view : ClusterView) : List Workload := view.nodes.flatMap view.hosted

/-- The nodes whose label under a key has a value. -/
def domain (view : ClusterView) (key value : String) : List Node :=
  view.nodes.filter fun node => node.labels.get? key = some value

/-- The workloads on the nodes of a domain. -/
def hostedIn (view : ClusterView) (key value : String) : List Workload :=
  (view.domain key value).flatMap view.hosted

/-- The workloads that the run has placed. -/
def placed (view : ClusterView) : List Workload := view.nodes.flatMap (·.placed)

end ClusterView

end Headroom
