import Headroom.Admission.Status
import Headroom.Node
/-!
# Rules about one node

Each of these rules compares a workload with one node and finds the obstacle, if there is one: the
node is closed, has too little left, lacks the labels asked for, or repels the workload by a taint.
-/

namespace Headroom.Node

/-- The taint that a cordoned node is taken to carry. -/
def cordonTaint : Taint :=
  { key := "node.kubernetes.io/unschedulable", effect := .noSchedule }

/-- A node takes one workload in a run, and a cordoned node only one that tolerates the cordon. -/
def closure? (node : Node) (workload : Workload) : Option Reason :=
  if node.consumed then some .consumed
  else if node.cordoned && !workload.tolerates cordonTaint then some .cordoned
  else none

/-- Whether one pod more would be above the limit of the node. Without a limit it never is. -/
def isFull (node : Node) : Bool :=
  (node.allocatable.get? .pods).any fun limit => limit.val < (Amount.clamp (node.podCount + 1)).val

/-- Whether a request is above what the node has left. Pods are counted, so they are not asked for
by amount, and a request of zero asks for nothing. -/
def lacks (node : Node) (resource : ResourceName) (requested : Amount) : Bool :=
  requested.val ≠ 0 && resource ≠ .pods && (node.remaining resource).val < requested.val

/-- A node needs room for one more pod and for every request. -/
def shortage? (node : Node) (workload : Workload) : Option Reason :=
  if node.isFull then some .tooManyPods
  else (workload.requests.entries.find? fun (resource, requested) =>
    node.lacks resource requested).map fun (resource, _) => .insufficient resource

/-- A node needs all labels of the node selector, and must meet one of the alternatives if the
workload has any; an empty list of alternatives cannot be met. -/
def mismatch? (node : Node) (workload : Workload) : Option Reason :=
  if node.labels.containsAll workload.nodeSelector &&
      workload.nodeAffinity.all (·.any (·.selects node.labels)) then none
  else some .nodeSelection

/-- Every taint that keeps workloads off must be tolerated. -/
def untolerated? (node : Node) (workload : Workload) : Option Reason :=
  (node.taints.find? fun taint =>
    taint.effect.isBlocking && !workload.tolerates taint).map .untolerated

end Headroom.Node
