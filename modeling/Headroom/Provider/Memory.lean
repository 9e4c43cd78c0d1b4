import Headroom.Provider.Basic
/-!
# Cluster state held in memory

A provider for trials: it serves given objects, but may be slow, may refuse every listing, and may
never have its index ready.
-/

namespace Headroom

/-- Given cluster state and how it is served. -/
structure MemoryCluster where
  nodes : List Manifest.Node := []
  pods : List Manifest.Pod := []
  /-- Why every listing fails. -/
  refusal : Option String := none
  /-- Milliseconds before each listing is answered. -/
  delay : Nat := 0
  neverReady : Bool := false

namespace MemoryCluster

/-- Answers a listing, or refuses it, after the delay. -/
def answer {α : Type} (cluster : MemoryCluster) (request : Request) (objects : α) : Inquiry α := do
  Inquiry.ask request
  Inquiry.pause cluster.delay
  match cluster.refusal with
  | some message => Inquiry.fail (.retrieval (.stated message))
  | none => return objects

/-- The provider of the cluster. -/
def provider (cluster : MemoryCluster) : Provider where
  nodes := cluster.answer .nodes cluster.nodes
  pods := cluster.answer .pods cluster.pods
  topology snapshot := if cluster.neverReady then pure {} else pure (.ofSnapshot snapshot)

end MemoryCluster

end Headroom
