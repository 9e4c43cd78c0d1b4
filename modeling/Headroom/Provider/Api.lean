import Headroom.Config
import Headroom.Provider.Basic
import Headroom.Topology.Sync
/-!
# Cluster state from an API server

Nodes and pods are listed once each. In live mode the topology index is filled from a watch, whose
listing comes in pages: the pods of a page are taken in before the next page is asked for.
-/

namespace Headroom

namespace Request

/-- The pods that still hold resources. -/
def activePods : String := "status.phase!=Succeeded,status.phase!=Failed"

/-- The path of a question. -/
def path : Request → String
  | nodes => "/api/v1/nodes"
  | pods | watch _ => "/api/v1/pods"

/-- The field selector of a question. -/
def fieldSelector? : Request → Option String
  | nodes => none
  | pods | watch _ => some activePods

/-- The label selector of a question. -/
def labelSelector? : Request → Option String
  | nodes | pods => none
  | watch labels => labels

end Request

/-- How a server answers one kind of question: after a delay, and perhaps with a failing status. -/
structure Answering where
  status : Option Nat := none
  delay : Nat := 0

/-- An API server with the objects that it serves. -/
structure ApiServer where
  nodes : List Manifest.Node := []
  pods : List Manifest.Pod := []
  /-- The pods that the listing of a watch shows, page by page. -/
  watched : List (List Manifest.Pod) := [[]]
  nodesAnswer : Answering := {}
  podsAnswer : Answering := {}
  watchAnswer : Answering := {}

/-- Cuts a list into pages of a size, counted as at least one. -/
def pages {α : Type} (size : Nat) : List α → List (List α)
  | [] => []
  | item :: rest =>
      (item :: rest.take (size - 1)) :: pages size (rest.drop (size - 1))
termination_by items => items.length
decreasing_by simp only [List.length_cons, List.length_drop]; omega

namespace ApiServer

/-- Sends a question and waits for the answer. -/
def answer (answering : Answering) (request : Request) (refused : Nat → Failure) :
    Inquiry Unit := do
  Inquiry.send request
  Inquiry.pause answering.delay
  match answering.status with
  | some status => Inquiry.fail (refused status)
  | none => return

/-- Takes in the pages of a watch one after the other. -/
def takePages (server : ApiServer) (labels : Option String) (snapshot : Snapshot) :
    List (List Manifest.Pod) → SyncState → Inquiry SyncState
  | [], state => pure state
  | page :: rest, state => do
      answer server.watchAnswer (.watch labels) fun status => .topologySync (.refused status)
      match state.feed snapshot (page.map .listed) with
      | .failed failure => Inquiry.fail failure
      | state => takePages server labels snapshot rest state

/-- The topology index that a watch fills. -/
def watch (server : ApiServer) (labels : Option String) (snapshot : Snapshot) :
    Inquiry TopologyIndex := do
  let begun := (SyncState.filling {}).feed snapshot [.begun]
  let state ← server.takePages labels snapshot server.watched begun
  Inquiry.ofExcept (state.feed snapshot [.completed]).outcome

/-- The provider that reads a server in the way that a configuration asks for. -/
def provider (server : ApiServer) (config : Config) : Provider where
  nodes := do
    answer server.nodesAnswer .nodes .api
    return server.nodes
  pods := do
    answer server.podsAnswer .pods .api
    return server.pods
  topology snapshot :=
    match config.mode with
    | .snapshot => pure (.ofSnapshot snapshot)
    | .live => server.watch config.podSelector snapshot

end ApiServer

end Headroom
