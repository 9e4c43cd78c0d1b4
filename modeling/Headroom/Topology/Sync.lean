import Headroom.Topology
/-!
# Filling the index from a watch

A watch first announces a listing, then hands out the listed pods one by one, and says when the
listing is complete; only then do changes follow. The index takes in the listing and stops there. A
new announcement starts it over, and a malformed pod or a watch that ends early fails it.
-/

namespace Headroom

/-- What a watch of pods reports. -/
inductive WatchEvent where
  | begun
  | listed (pod : Manifest.Pod)
  | completed
  | changed (pod : Manifest.Pod)
  | removed (pod : Manifest.Pod)

/-- How far the filling of an index has come. -/
inductive SyncState where
  | filling (index : TopologyIndex)
  | done (index : TopologyIndex)
  | failed (failure : Failure)

/-- Takes one watched pod into an index. Pods that the snapshot passes over are passed over. -/
def TopologyIndex.addPod (index : TopologyIndex) (snapshot : Snapshot) (pod : Manifest.Pod) :
    Except RetrievalError TopologyIndex :=
  if pod.isTerminal then .ok index
  else match pod.boundNode? with
    | none => .ok index
    | some name =>
        if (snapshot.node? name).isNone then .ok index
        else do return index.insert name (← pod.toWorkload)

namespace SyncState

/-- What one report changes. Nothing changes once the filling is over. -/
def step (snapshot : Snapshot) (state : SyncState) (event : WatchEvent) : SyncState :=
  match state with
  | filling index =>
      match event with
      | .begun => filling index.clear
      | .listed pod =>
          match index.addPod snapshot pod with
          | .ok index => filling index
          | .error error => failed (.retrieval error)
      | .completed => done index.markReady
      | .changed _ | .removed _ => filling index
  | done index => done index
  | failed failure => failed failure

/-- What some reports change. -/
def feed (snapshot : Snapshot) (state : SyncState) (events : List WatchEvent) : SyncState :=
  events.foldl (step snapshot) state

/-- The outcome when the watch says no more. -/
def outcome : SyncState → Except Failure TopologyIndex
  | filling _ => .error (.topologySync .ended)
  | done index => .ok index
  | failed failure => .error failure

end SyncState

/-- The index that a watch fills. -/
def TopologyIndex.sync (snapshot : Snapshot) (events : List WatchEvent) :
    Except Failure TopologyIndex :=
  (SyncState.feed snapshot (.filling {}) events).outcome

end Headroom
