import Headroom.Topology.Sync
import Headroom.Proofs.Snapshot.Build
/-!
# A watch shows what a listing shows

The index that a watch fills passes over the same pods as the snapshot does, fails at the same pod,
and holds the same workloads in the same order (`TopologyIndex.shows_sync`). How the watch cuts its
listing into pages does not matter.
-/

namespace Headroom

variable {nodes : List Manifest.Node} {listed : List Manifest.Pod} {snapshot : Snapshot}

theorem Snapshot.lists_of_build (built : build nodes listed = .ok snapshot) :
    snapshot.Lists nodes := by
  obtain ⟨records, entries, converted, -, rfl⟩ := build_eq_ok_iff.mp built
  intro name
  rw [names_bindAll]
  exact lists_ofNodes converted name

/-! ## Filling an index -/

namespace TopologyIndex

/-- The index with some running workloads more, each under a name. -/
def insertAll (index : TopologyIndex) (entries : List (String × Workload)) : TopologyIndex :=
  entries.foldl (fun index entry => index.insert entry.1 entry.2) index

theorem ofSnapshot_eq (snapshot : Snapshot) :
    ofSnapshot snapshot = (insertAll {} snapshot.running).markReady := rfl

theorem workloadsOn_insert (index : TopologyIndex) (name other : String) (workload : Workload) :
    (index.insert name workload).workloadsOn other =
      index.workloadsOn other ++ if name = other then [workload] else [] := by
  unfold insert workloadsOn
  by_cases same : name = other
  · rw [if_pos same, ← same, Dict.get?_update_self]
    rfl
  · rw [if_neg same, Dict.get?_update_of_ne _ fun alike => same alike.symm, List.append_nil]

theorem workloadsOn_insertAll (index : TopologyIndex) (entries : List (String × Workload))
    (name : String) :
    (index.insertAll entries).workloadsOn name =
      index.workloadsOn name ++ (entries.filter (·.1 = name)).map (·.2) := by
  induction entries generalizing index with
  | nil => exact (List.append_nil _).symm
  | cons entry rest ih =>
      show ((index.insert entry.1 entry.2).insertAll rest).workloadsOn name = _
      rw [ih, workloadsOn_insert, List.append_assoc]
      by_cases same : entry.1 = name
      · rw [if_pos same, List.filter_cons_of_pos (by simpa using same)]
        rfl
      · rw [if_neg same, List.filter_cons_of_neg (by simpa using same), List.nil_append]

/-- Under each name the index of a snapshot has what runs under it. -/
theorem workloadsOn_ofSnapshot (snapshot : Snapshot) (name : String) :
    (ofSnapshot snapshot).workloadsOn name =
      (snapshot.running.filter (·.1 = name)).map (·.2) := by
  rw [ofSnapshot_eq]
  exact workloadsOn_insertAll {} snapshot.running name

theorem addPod_eq (lists : snapshot.Lists nodes) (index : TopologyIndex) (pod : Manifest.Pod) :
    index.addPod snapshot pod =
      if pod.Counts nodes then pod.entry.map fun entry => index.insert entry.1 entry.2
      else .ok index :=
  Manifest.Pod.takeIn_eq (fun name => Snapshot.isNone_node?_iff.trans (not_congr (lists name))) pod
    index.insert index

theorem foldlM_addPod_eq (lists : snapshot.Lists nodes) (index : TopologyIndex)
    (pods : List Manifest.Pod) :
    pods.foldlM (fun index pod => index.addPod snapshot pod) index =
      ((pods.filter (·.Counts nodes)).mapM Manifest.Pod.entry).map index.insertAll := by
  -- the snapshot stays as it is, so nothing has to be known of the index on the way
  have kept : ∀ (index : TopologyIndex) (entry : String × Workload), True → True :=
    fun _ _ known => known
  exact foldlM_eq_map_mapM kept (fun index pod _ => addPod_eq lists index pod) pods trivial

end TopologyIndex

/-! ## Draining a watch -/

namespace SyncState

/-- The state when some pods have been taken in, or one of them could not be. -/
def ofTaken : Except RetrievalError TopologyIndex → SyncState
  | .ok index => filling index
  | .error error => failed (.retrieval error)

theorem feed_failed (snapshot : Snapshot) (failure : Failure) (events : List WatchEvent) :
    (failed failure).feed snapshot events = failed failure := by
  induction events with
  | nil => rfl
  | cons event rest ih => exact ih

theorem feed_append (snapshot : Snapshot) (state : SyncState) (early late : List WatchEvent) :
    state.feed snapshot (early ++ late) = (state.feed snapshot early).feed snapshot late :=
  List.foldl_append

theorem step_listed (snapshot : Snapshot) (index : TopologyIndex) (pod : Manifest.Pod) :
    (filling index).step snapshot (.listed pod) = ofTaken (index.addPod snapshot pod) := by
  show (match index.addPod snapshot pod with
    | .ok index => filling index
    | .error error => failed (.retrieval error)) = _
  cases index.addPod snapshot pod <;> rfl

theorem feed_listed (snapshot : Snapshot) (index : TopologyIndex) (pods : List Manifest.Pod) :
    (filling index).feed snapshot (pods.map .listed) =
      ofTaken (pods.foldlM (fun index pod => index.addPod snapshot pod) index) := by
  induction pods generalizing index with
  | nil => rfl
  | cons pod rest ih =>
      show SyncState.feed snapshot ((filling index).step snapshot (.listed pod))
        (rest.map .listed) = _
      rw [step_listed, List.foldlM_cons]
      cases index.addPod snapshot pod with
      | error error => exact feed_failed snapshot _ _
      | ok next => exact ih next

theorem outcome_completed (snapshot : Snapshot) (taken : Except RetrievalError TopologyIndex) :
    ((ofTaken taken).feed snapshot [.completed]).outcome =
      (taken.mapError Failure.retrieval).map TopologyIndex.markReady := by
  cases taken <;> rfl

end SyncState

/-- What a watch reports when it shows a listing page by page. -/
def listing (pages : List (List Manifest.Pod)) : List WatchEvent :=
  .begun :: pages.flatMap (·.map .listed) ++ [.completed]

theorem TopologyIndex.sync_listing (snapshot : Snapshot) (pages : List (List Manifest.Pod)) :
    sync snapshot (listing pages) =
      ((pages.flatten.foldlM (fun index pod => addPod index snapshot pod) {}).mapError
        Failure.retrieval).map markReady := by
  have paged : pages.flatMap (·.map WatchEvent.listed) = pages.flatten.map .listed := by
    rw [List.map_flatten, List.flatMap_def]
  unfold sync listing
  rw [paged, SyncState.feed_append]
  -- the announcement clears an index that is empty anyway
  show (SyncState.feed snapshot (SyncState.feed snapshot (.filling {}) (pages.flatten.map .listed))
    [.completed]).outcome = _
  rw [SyncState.feed_listed, SyncState.outcome_completed]

/-- Watching pods comes to the same as listing them, whatever was listed for the snapshot. -/
theorem TopologyIndex.sync_eq_build (built : Snapshot.build nodes listed = .ok snapshot)
    (pages : List (List Manifest.Pod)) :
    sync snapshot (listing pages) =
      ((Snapshot.build nodes pages.flatten).mapError Failure.retrieval).map ofSnapshot := by
  have lists := Snapshot.lists_of_build built
  obtain ⟨records, _, converted, -, -⟩ := Snapshot.build_eq_ok_iff.mp built
  rw [sync_listing, foldlM_addPod_eq lists, Snapshot.build_eq, converted, ok_bind]
  cases taken : (pages.flatten.filter (·.Counts nodes)).mapM Manifest.Pod.entry with
  | error error => rfl
  | ok entries =>
      have runs := Snapshot.running_of_mapM_entry converted taken
      show Except.ok (insertAll {} entries).markReady = .ok (ofSnapshot _)
      rw [ofSnapshot_eq, runs]

/-- What it takes for an index to show the pods that count, like the index of their snapshot. -/
structure TopologyIndex.Shows (nodes : List Manifest.Node) (pods : List Manifest.Pod)
    (outcome : Except Failure TopologyIndex) : Prop where
  agrees : outcome = ((Snapshot.build nodes pods).mapError Failure.retrieval).map ofSnapshot
  /-- The failure is that of the first pod that counts but cannot be converted. -/
  fails : ∀ failure, outcome = .error failure ↔ ∃ error, failure = .retrieval error ∧
    FirstFailure Manifest.Pod.toWorkload (pods.filter (·.Counts nodes)) error
  /-- Under each name stand the workloads that run there, in listing order. -/
  holds : ∀ index, outcome = .ok index → index.ready = true ∧
    ∃ snapshot, Snapshot.build nodes pods = .ok snapshot ∧ ∀ name,
      index.workloadsOn name = (snapshot.running.filter (·.1 = name)).map (·.2)

theorem TopologyIndex.shows_sync (built : Snapshot.build nodes listed = .ok snapshot)
    (pages : List (List Manifest.Pod)) :
    Shows nodes pages.flatten (sync snapshot (listing pages)) := by
  have agrees := sync_eq_build built pages
  have converts := (Snapshot.exists_build_eq_ok_iff.mp ⟨snapshot, built⟩).1
  refine ⟨agrees, fun failure => ?_, fun index filled => ?_⟩
  · rw [agrees]
    simp only [← Snapshot.build_eq_error_iff_of_converts converts]
    cases Snapshot.build nodes pages.flatten with
    | error error => simp [Except.mapError, Except.map, eq_comm]
    | ok other => simp [Except.mapError, Except.map]
  · rw [agrees] at filled
    cases taken : Snapshot.build nodes pages.flatten with
    | error error =>
        rw [taken] at filled
        contradiction
    | ok other =>
        rw [taken] at filled
        cases filled
        refine ⟨rfl, other, rfl, fun name => ?_⟩
        rw [ofSnapshot_eq]
        exact workloadsOn_insertAll {} other.running name

end Headroom
