import Headroom.Node
/-!
# Snapshots

A snapshot is the cluster at one moment: the nodes in listing order and the workloads that run on
them. A pod counts when it has not finished and is bound to a listed node; it is charged to the
first node of that name, and all other pods are passed over before anything else about them is
looked at.
-/

namespace Headroom

/-- The cluster at one moment. -/
structure Snapshot where
  nodes : List Node := []
  /-- The running workloads with the name of their node, in listing order. -/
  running : List (String × Workload) := []
deriving DecidableEq

namespace Snapshot

/-- The nodes without any running workload. -/
def ofNodes (nodes : List Node) : Snapshot := { nodes }

/-- The place of the first node of a name. -/
def position? (snapshot : Snapshot) (name : String) : Option Nat :=
  snapshot.nodes.findIdx? (·.name = name)

/-- The first node of a name. -/
def node? (snapshot : Snapshot) (name : String) : Option Node :=
  snapshot.nodes.find? (·.name = name)

/-- Lets a workload run on the first node of a name. Without such a node nothing changes. -/
def bind (snapshot : Snapshot) (name : String) (workload : Workload) : Snapshot :=
  match snapshot.position? name with
  | none => snapshot
  | some position =>
      { nodes := snapshot.nodes.modify position (·.bind workload)
        running := snapshot.running ++ [(name, workload)] }

/-- Takes in one listed pod. -/
def addPod (snapshot : Snapshot) (pod : Manifest.Pod) : Except RetrievalError Snapshot :=
  if pod.isTerminal then .ok snapshot
  else match pod.boundNode? with
    | none => .ok snapshot
    | some name =>
        if (snapshot.position? name).isNone then .ok snapshot
        else do return snapshot.bind name (← pod.toWorkload)

/-- The snapshot of listed nodes and pods. The nodes are converted before any pod. -/
def build (nodes : List Manifest.Node) (pods : List Manifest.Pod) :
    Except RetrievalError Snapshot := do
  let records ← nodes.mapM Node.ofManifest
  pods.foldlM addPod (ofNodes records)

end Snapshot

end Headroom
