import Headroom.Inquiry
import Headroom.Topology
/-!
# Where cluster state comes from

A provider lists nodes and pods, and makes the topology index for a snapshot. Unless a provider has
a way of its own, the index is that of the snapshot.
-/

namespace Headroom

/-- A source of cluster state. -/
structure Provider where
  nodes : Inquiry (List Manifest.Node)
  pods : Inquiry (List Manifest.Pod)
  topology : Snapshot → Inquiry TopologyIndex := fun snapshot => pure (.ofSnapshot snapshot)

namespace Provider

/-- The provider of given objects, at once. -/
def ofLists (nodes : List Manifest.Node) (pods : List Manifest.Pod) : Provider :=
  { nodes := pure nodes, pods := pure pods }

/-- The provider that waits before it makes the topology index. -/
def delayTopology (provider : Provider) (milliseconds : Nat) : Provider :=
  { provider with
    topology := fun snapshot => do
      Inquiry.pause milliseconds
      provider.topology snapshot }

end Provider

end Headroom
