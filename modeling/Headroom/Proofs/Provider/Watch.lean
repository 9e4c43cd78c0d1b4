import Headroom.Provider.Api
import Headroom.Proofs.Estimate
import Headroom.Proofs.Topology.Sync
/-!
# Live estimates

An API server that answers its watch has the index filled as if the pages had come at once
(`ApiServer.result_watch`). When the watch shows the pods that the listing shows, an estimate in
live mode therefore comes to the same as one in snapshot mode, unless the watch is refused or late
(`live_agrees_with_snapshot`).
-/

namespace Headroom

variable {server : ApiServer} {config : Config} {chain : Chain} {snapshot : Snapshot}
  {batch : List Workload} {started : Nat}

namespace ApiServer

/-! ## Results of a watch -/

theorem result_answer_of_status_eq_none {answering : Answering} {request : Request}
    {refused : Nat → Failure} (answers : answering.status = none) :
    (answer answering request refused).result = .ok () := by
  unfold answer
  rw [Inquiry.result_bind, answers]
  rfl

theorem result_answer_of_status_eq_some {answering : Answering} {request : Request}
    {refused : Nat → Failure} {code : Nat} (status : answering.status = some code) :
    (answer answering request refused).result = .error (.failure (refused code)) := by
  unfold answer
  rw [Inquiry.result_bind, status]
  rfl

/-- What a watch comes to that has got so far and then is complete. -/
def completed (snapshot : Snapshot) (state : SyncState) : Except Halt TopologyIndex :=
  ((state.feed snapshot [.completed]).outcome).mapError .failure

theorem result_takePages (answers : server.watchAnswer.status = none) (labels : Option String)
    (pages : List (List Manifest.Pod)) (state : SyncState) :
    ((server.takePages labels snapshot pages state).result >>= completed snapshot) =
      completed snapshot (state.feed snapshot (pages.flatMap (·.map .listed))) := by
  induction pages generalizing state with
  | nil => rfl
  | cons page rest ih =>
      rw [List.flatMap_cons, SyncState.feed_append]
      unfold takePages
      rw [Inquiry.result_bind, result_answer_of_status_eq_none answers, ok_bind]
      cases state.feed snapshot (page.map .listed) with
      | failed failure =>
          -- the pages that are not asked for would change nothing
          rw [SyncState.feed_failed]
          rfl
      | filling index => exact ih (.filling index)
      | done index => exact ih (.done index)

theorem result_watch_eq (server : ApiServer) (labels : Option String) (snapshot : Snapshot) :
    (server.watch labels snapshot).result =
      ((server.takePages labels snapshot server.watched (.filling {})).result >>=
        completed snapshot) := by
  unfold watch
  rw [Inquiry.result_bind]
  rfl

theorem result_watch (answers : server.watchAnswer.status = none) (labels : Option String)
    (snapshot : Snapshot) :
    (server.watch labels snapshot).result =
      (TopologyIndex.sync snapshot (listing server.watched)).mapError .failure := by
  rw [result_watch_eq, result_takePages answers]
  unfold TopologyIndex.sync listing completed
  rw [SyncState.feed_append]
  rfl

/-- A watch that fills no index like a listing has been refused. -/
theorem result_watch_or_refused (server : ApiServer) (labels : Option String)
    (snapshot : Snapshot) :
    (server.watch labels snapshot).result =
        (TopologyIndex.sync snapshot (listing server.watched)).mapError .failure ∨
      ∃ error, (server.watch labels snapshot).result = .error (.failure (.topologySync error)) := by
  cases status : server.watchAnswer.status with
  | none => exact .inl (result_watch status labels snapshot)
  | some code =>
      rw [result_watch_eq]
      cases paged : server.watched with
      | nil => exact .inl rfl
      | cons page rest =>
          refine .inr ⟨.refused code, ?_⟩
          unfold takePages
          rw [Inquiry.result_bind, result_answer_of_status_eq_some status]
          rfl

/-! ## Estimates in both modes -/

/-- An estimator that reads a server in some mode. -/
def estimatorIn (server : ApiServer) (config : Config) (chain : Chain) (mode : TopologyMode) :
    Estimator :=
  { provider := server.provider { config with mode }, config := { config with mode }, chain }

theorem build_of_result_snapshot {mode : TopologyMode}
    (read : (server.estimatorIn config chain mode).snapshot.result = .ok snapshot) :
    Snapshot.build server.nodes server.pods = .ok snapshot := by
  obtain ⟨nodes, pods, listed, shown, built⟩ := Estimator.build_of_result_snapshot read
  change (answer server.nodesAnswer .nodes .api >>= fun _ =>
    (pure server.nodes : Inquiry _)).result = .ok nodes at listed
  change (answer server.podsAnswer .pods .api >>= fun _ =>
    (pure server.pods : Inquiry _)).result = .ok pods at shown
  simp only [Inquiry.result_bind, bind_eq_ok_iff, Inquiry.result_pure, Except.ok.injEq] at listed
  simp only [Inquiry.result_bind, bind_eq_ok_iff, Inquiry.result_pure, Except.ok.injEq] at shown
  obtain ⟨-, -, rfl⟩ := listed
  obtain ⟨-, -, rfl⟩ := shown
  exact built

/-- A watch that shows what is listed gives the index of the snapshot, unless it is refused. -/
theorem result_watch_of_build (same_pods : server.watched.flatten = server.pods)
    (built : Snapshot.build server.nodes server.pods = .ok snapshot) (labels : Option String) :
    (server.watch labels snapshot).result = .ok (.ofSnapshot snapshot) ∨
      ∃ error, (server.watch labels snapshot).result = .error (.failure (.topologySync error)) := by
  have filled : TopologyIndex.sync snapshot (listing server.watched) =
      .ok (.ofSnapshot snapshot) := by
    rw [TopologyIndex.sync_eq_build built, same_pods, built]
    rfl
  have shown := server.result_watch_or_refused labels snapshot
  rw [filled] at shown
  exact shown

/-- When the watch shows what is listed, the live index is that of the snapshot, unless the watch
is refused or late. -/
theorem result_topology_live (now : Nat) (same_pods : server.watched.flatten = server.pods)
    (built : Snapshot.build server.nodes server.pods = .ok snapshot) :
    ((server.estimatorIn config chain .live).topology now snapshot).result =
        ((server.estimatorIn config chain .snapshot).topology now snapshot).result ∨
      (∃ error, ((server.estimatorIn config chain .live).topology now snapshot).result =
        .error (.failure (.topologySync error))) ∨
      ∃ seconds, ((server.estimatorIn config chain .live).topology now snapshot).result =
        .error (.failure (.timeout (.sync seconds))) := by
  rcases Nat.lt_or_ge clockRange (now / 1000 + config.syncLimit.toNat) with beyond | shown
  · refine .inl ?_
    rw [Estimator.result_topology_of_clockRange beyond]
    exact (Estimator.result_topology_of_clockRange beyond).symm
  · have held : ((server.estimatorIn config chain .snapshot).topology now snapshot).result =
        .ok (.ofSnapshot snapshot) := Estimator.result_topology_of_pure shown rfl rfl
    have watched := result_watch_of_build same_pods built config.podSelector
    have ready : ∀ index, (server.watch config.podSelector snapshot).result = .ok index →
        index.ready = true := by
      intro index given
      rcases watched with filled | ⟨error, refused⟩
      · rw [filled] at given
        cases given
        rfl
      · rw [refused] at given
        contradiction
    rw [held]
    rcases (server.estimatorIn config chain .live).result_topology snapshot shown ready with
      through | late
    · rw [through]
      exact watched.imp_right .inl
    · exact .inr (.inr ⟨_, late⟩)

/-- An estimate in live mode comes to the same as one in snapshot mode if the watch shows the pods
that are listed, is not refused and not late. -/
theorem result_estimate_live (same_pods : server.watched.flatten = server.pods)
    (unrefused : ∀ error, ((server.estimatorIn config chain .live).estimate started batch).result ≠
      .error (.failure (.topologySync error)))
    (punctual : ∀ seconds, ((server.estimatorIn config chain .live).estimate started batch).result ≠
      .error (.failure (.timeout (.sync seconds)))) :
    ((server.estimatorIn config chain .live).estimate started batch).result =
      ((server.estimatorIn config chain .snapshot).estimate started batch).result := by
  cases empty : batch.isEmpty with
  | true =>
      unfold Estimator.estimate
      rw [if_pos empty, if_pos empty]
  | false =>
      have live := (server.estimatorIn config chain .live).result_estimate started empty
      have still := (server.estimatorIn config chain .snapshot).result_estimate started empty
      -- up to the index both modes do the same, and stop at the same failure
      cases checked : (server.estimatorIn config chain .live).config.validate with
      | error fault =>
          have alike : (server.estimatorIn config chain .snapshot).config.validate =
            .error fault := checked
          rw [live, still, checked, alike]
          rfl
      | ok valid =>
          have alike : (server.estimatorIn config chain .snapshot).config.validate = .ok valid :=
            checked
          cases read : (server.estimatorIn config chain .live).snapshot.result with
          | error halt =>
              have unread : (server.estimatorIn config chain .snapshot).snapshot.result =
                .error halt := read
              rw [live, still, checked, alike, read, unread]
              rfl
          | ok snapshot =>
              have live := Estimator.result_estimate_of_snapshot _ started empty checked read
              have still := Estimator.result_estimate_of_snapshot _ started empty alike read
              rw [live] at unrefused punctual ⊢
              rw [still]
              rcases result_topology_live _ same_pods (build_of_result_snapshot read) with
                same | ⟨error, refused⟩ | ⟨seconds, late⟩
              · rw [same]
                rfl
              · rw [refused] at unrefused
                exact absurd rfl (unrefused error)
              · rw [late] at punctual
                exact absurd rfl (punctual seconds)

end ApiServer

/-- The live index and that of the snapshot agree. Whatever a snapshot was built from, the pages of
a watch are taken in as a listing of the same pods would be, with the same failure, and a server
that answers its watch has them taken in. So the two modes come to the same estimate of every batch
when they are started at the same time, watch and listing show the same pods, and the watch is
neither refused nor late. -/
theorem live_agrees_with_snapshot :
    (∀ (nodes : List Manifest.Node) (listed : List Manifest.Pod) (snapshot : Snapshot),
      Snapshot.build nodes listed = .ok snapshot → ∀ pages : List (List Manifest.Pod),
        TopologyIndex.Shows nodes pages.flatten (TopologyIndex.sync snapshot (listing pages))) ∧
    (∀ server : ApiServer, server.watchAnswer.status = none →
      ∀ (labels : Option String) (snapshot : Snapshot), (server.watch labels snapshot).result =
        (TopologyIndex.sync snapshot (listing server.watched)).mapError .failure) ∧
    ∀ (server : ApiServer) (config : Config) (chain : Chain) (started : Nat)
        (batch : List Workload), server.watched.flatten = server.pods →
      (∀ error, ((server.estimatorIn config chain .live).estimate started batch).result ≠
        .error (.failure (.topologySync error))) →
      (∀ seconds, ((server.estimatorIn config chain .live).estimate started batch).result ≠
        .error (.failure (.timeout (.sync seconds)))) →
      ((server.estimatorIn config chain .live).estimate started batch).result =
        ((server.estimatorIn config chain .snapshot).estimate started batch).result :=
  ⟨fun _ _ _ built pages => TopologyIndex.shows_sync built pages,
    fun _ answers labels snapshot => ApiServer.result_watch answers labels snapshot,
    fun _ _ _ _ _ same_pods unrefused punctual =>
      ApiServer.result_estimate_live same_pods unrefused punctual⟩

namespace Sample

/-- A pod that keeps others of its kind off its node. -/
def lonelyPod (name node : String) : Manifest.Pod :=
  { name := some name
    labels := Dict.insert ∅ "app" "cache"
    spec := some
      { node := some node
        repelled := [{ selector := some { labels := Dict.insert ∅ "app" "cache" }
                       topologyKey := "host" }] } }

def host (name : String) : Manifest.Node :=
  { name := some name, labels := Dict.insert ∅ "host" name }

/-- Cuts its three pods into two pages, each after a second. -/
def slowServer : ApiServer :=
  { nodes := [host "one", host "two", host "three"]
    pods := [lonelyPod "a" "one", lonelyPod "b" "gone", lonelyPod "c" "two"]
    watched := [[lonelyPod "a" "one"], [lonelyPod "b" "gone", lonelyPod "c" "two"]]
    watchAnswer := { delay := 1000 } }

def loner : Workload := { name := "loner", labels := Dict.insert ∅ "app" "cache" }

/-- The only free host is found in both modes. -/
theorem live_agrees_with_snapshot_slowServer :
    (∃ snapshot, Snapshot.build slowServer.nodes [] = .ok snapshot ∧
      TopologyIndex.Shows slowServer.nodes slowServer.pods
        (TopologyIndex.sync snapshot (listing slowServer.watched)) ∧
      slowServer.watchAnswer.status = none ∧
      (slowServer.watch none snapshot).result =
        (TopologyIndex.sync snapshot (listing slowServer.watched)).mapError .failure) ∧
    slowServer.watched.flatten = slowServer.pods ∧ ∃ report,
      ((slowServer.estimatorIn {} .standard .live).estimate 5000 [loner]).result = .ok report ∧
      ((slowServer.estimatorIn {} .standard .snapshot).estimate 5000 [loner]).result = .ok report ∧
      report.assignments.map (·.node) = ["three"] := by
  obtain ⟨shows_pages, watches, agree⟩ := live_agrees_with_snapshot
  have same_pods : slowServer.watched.flatten = slowServer.pods := by rfl
  refine ⟨⟨_, by rfl, ?_, by rfl, watches slowServer (by rfl) none _⟩, same_pods, ?_⟩
  · rw [← same_pods]
    exact shows_pages slowServer.nodes [] _ (by rfl) slowServer.watched
  · obtain ⟨report, live, placed⟩ : ∃ report,
        ((slowServer.estimatorIn {} .standard .live).estimate 5000 [loner]).result = .ok report ∧
          report.assignments.map (·.node) = ["three"] := ⟨_, by rfl, by rfl⟩
    refine ⟨report, live, ?_, placed⟩
    rw [← agree slowServer {} .standard 5000 [loner] same_pods (by simp [live]) (by simp [live])]
    exact live

end Sample

end Headroom
