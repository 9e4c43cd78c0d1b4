import Headroom.Proofs.Admission.Newcomer
import Headroom.Proofs.Placement.Course
/-!
# A node more at the end of the list

First-fit looks at a node only when all nodes before it have been turned down. A node that hosts
nothing and stands last is therefore not looked at while there is another place, and no rule can
tell that it is there. A run over the longer list does all that the run over the shorter list did,
and goes on from there (`appended_node_keeps_assignments`).
-/

namespace Headroom

/-- The snapshot with one more node, in front of the node at a position or else at the end. -/
def Snapshot.insertNode (snapshot : Snapshot) (position : Nat) (newcomer : Node) : Snapshot :=
  { snapshot with
    nodes := snapshot.nodes.take position ++ newcomer :: snapshot.nodes.drop position }

/-- The snapshot with one more node at the end. -/
def Snapshot.appendNode (snapshot : Snapshot) (newcomer : Node) : Snapshot :=
  { snapshot with nodes := snapshot.nodes ++ [newcomer] }

variable {snapshot : Snapshot} {index : TopologyIndex} {newcomer node : Node}
  {session start : Session} {chain : Chain} {rules : List StandardRule} {workload : Workload}
  {batch placed : List Workload} {turn position : Nat} {prepared : Prepared} {view : ClusterView}

/-- A node on which nothing runs, and on which nothing has been placed. -/
structure Node.Vacant (node : Node) (index : TopologyIndex) : Prop where
  unplaced : node.placed = []
  unindexed : index.workloadsOn node.name = []

theorem Node.Vacant.hosted_eq_nil (vacant : newcomer.Vacant view.index) :
    view.hosted newcomer = [] := by
  rw [ClusterView.hosted, vacant.unindexed, vacant.unplaced, List.append_nil]

theorem Snapshot.widens_insertNode (vacant : newcomer.Vacant index) (position : Nat) :
    (snapshot.view index).Widens newcomer ((snapshot.insertNode position newcomer).view index) where
  split := ⟨_, _, (List.take_append_drop position snapshot.nodes).symm, rfl⟩
  index_eq := rfl
  vacant := vacant.hosted_eq_nil

namespace Session

/-! ## The same search over a longer list -/

/-- The session with one more node at the end. -/
def appendNode (session : Session) (newcomer : Node) : Session :=
  { session with snapshot := session.snapshot.appendNode newcomer }

theorem widens_appendNode (vacant : newcomer.Vacant session.index) :
    session.view.Widens newcomer (session.appendNode newcomer).view where
  split := ⟨session.snapshot.nodes, [], (List.append_nil _).symm, rfl⟩
  index_eq := rfl
  vacant := Node.Vacant.hosted_eq_nil vacant

/-- A search that has come to an end does not look further. -/
theorem search_append_of_ne {nodes : List Node} {start : Nat}
    (ended : search prepared view workload start nodes ≠ .ok none) (more : List Node) :
    search prepared view workload start (nodes ++ more) =
      search prepared view workload start nodes := by
  induction nodes generalizing start with
  | nil => exact absurd rfl ended
  | cons head rest ih =>
      rw [List.cons_append]
      unfold search at ended ⊢
      cases verdict : prepared.judge view workload head with
      | ok accepted => rfl
      | error rejection =>
          simp only [verdict] at ended ⊢
          split
          · rfl
          · next calm =>
              rw [if_neg calm] at ended
              exact ih ended

theorem search_eq_of_widens {wider : ClusterView} (wide : view.Widens newcomer wider)
    (nodes : List Node) (start : Nat) :
    search prepared wider workload start nodes = search prepared view workload start nodes := by
  induction nodes generalizing start with
  | nil => rfl
  | cons head rest ih =>
      unfold search
      rw [wide.judge_eq, ih]

/-- The newcomer is not looked at while there is another place, or if the workload is malformed. -/
theorem locate_appendNode {outcome : Except Rejection (Option (Nat × Node))}
    (vacant : newcomer.Vacant session.index) (located : session.locate chain workload = outcome)
    (ended : outcome ≠ .ok none) :
    (session.appendNode newcomer).locate chain workload = outcome := by
  subst located
  -- the chain gets ready as before, and then looks at the same nodes first
  have wide := widens_appendNode vacant
  unfold locate at ended ⊢
  rw [wide.prepare_eq]
  cases ready : chain.prepare session.view workload with
  | error rejection => rfl
  | ok prepared =>
      rw [ready, ok_bind] at ended
      rw [ok_bind, ok_bind, search_eq_of_widens wide]
      exact search_append_of_ne ended [newcomer]

theorem lt_length_of_search {nodes : List Node} {start : Nat}
    (found : search prepared view workload start nodes = .ok (some (position, node))) :
    position < start + nodes.length := by
  obtain ⟨before, after, rfl, rfl, -⟩ := search_eq_some found
  rw [List.length_append, List.length_cons]
  omega

theorem place_appendNode (bound : position < session.snapshot.nodes.length) :
    (session.appendNode newcomer).place turn workload position node =
      (session.place turn workload position node).appendNode newcomer := by
  have kept : (session.snapshot.nodes ++ [newcomer]).set position (node.place workload) =
      session.snapshot.nodes.set position (node.place workload) ++ [newcomer] :=
    List.set_append_left position (node.place workload) bound
  simp only [place, appendNode, Snapshot.appendNode, kept]

/-! ## The run over a longer list -/

/-- Whatever state the run over the shorter list comes to, the run over the longer list comes to the
same with one more node. -/
theorem Reaches.appendNode (vacant : newcomer.Vacant start.index)
    (reached : Reaches chain start placed session) :
    Reaches chain (start.appendNode newcomer) placed (session.appendNode newcomer) := by
  induction reached with
  | start => exact .start
  | @place placed session workload position node earlier found ih =>
      -- a run leaves the index alone, so nothing comes to the newcomer on the way
      have still_vacant : newcomer.Vacant session.index := by rwa [earlier.index_eq]
      have located := locate_appendNode still_vacant found (by simp)
      have bound : position < session.snapshot.nodes.length := by
        obtain ⟨prepared, -, searched⟩ := bind_eq_ok_iff.mp found
        have within := lt_length_of_search searched
        rwa [Nat.zero_add] at within
      rw [← place_appendNode bound]
      exact ih.place located

/-- What a run over more nodes makes of a run over fewer: it does the same as far as that one goes,
with the same nodes for the same workloads, and ends with it unless that one ran out of places. -/
structure Upholds (one other : Session × Except Failure Unit) : Prop where
  assignments_prefix : one.1.assignments <+: other.1.assignments
  used_kept : ∀ (position : Nat) (node : Node), one.1.snapshot.nodes[position]? = some node →
    node.consumed = true → other.1.snapshot.nodes[position]? = some node
  complete : one.2 = .ok () → one.1.firstUnplaced = none →
    other.2 = .ok () ∧ other.1.firstUnplaced = none ∧ other.1.assignments = one.1.assignments
  failed : ∀ failure, one.2 = .error failure →
    other.2 = .error failure ∧ other.1.assignments = one.1.assignments

theorem getElem?_appendNode (stands : session.snapshot.nodes[position]? = some node) :
    (session.appendNode newcomer).snapshot.nodes[position]? = some node := by
  show (session.snapshot.nodes ++ [newcomer])[position]? = some node
  rw [List.getElem?_append_left (List.getElem?_eq_some_iff.mp stands).1, stands]

theorem upholds_run (session : Session) (exclusive : .unschedulableExclusion ∈ rules)
    (vacant : newcomer.Vacant session.index) :
    Upholds (session.run (rules.map .standard))
      ((session.appendNode newcomer).run (rules.map .standard)) := by
  obtain ⟨placed, rest, last, split, reached, ends⟩ :=
    exists_reaches_run (rules.map .standard) session
  -- the longer run comes to the last state of the shorter one, and goes on with what is left
  have longer : (session.appendNode newcomer).run (rules.map .standard) =
      placeAll (rules.map .standard) placed.length rest (last.appendNode newcomer) := by
    show placeAll (rules.map .standard) 0 session.batch (session.appendNode newcomer) = _
    rw [split]
    exact (reached.appendNode vacant).placeAll_append rest
  have still_vacant : newcomer.Vacant last.index := by rwa [reached.index_eq]
  rw [longer]
  generalize session.run (rules.map .standard) = shorter at ends
  obtain ⟨final, outcome⟩ := shorter
  cases ends with
  | complete =>
      refine ⟨List.prefix_refl _, fun position node stands _ => getElem?_appendNode stands, ?_, ?_⟩
      · exact fun _ all_placed => ⟨rfl, all_placed, rfl⟩
      · exact fun failure failed => by contradiction
  | unplaceable nowhere =>
      -- only now may the newcomer be used, and what was placed stays placed
      refine ⟨assignments_prefix_placeAll _ _ _ (last.appendNode newcomer),
        fun position node stands used => ?_, ?_, ?_⟩
      · exact getElem?_placeAll_of_consumed exclusive (getElem?_appendNode stands) used
      · exact fun _ all_placed => by contradiction
      · exact fun failure failed => by contradiction
  | @malformed workload others rejection objects =>
      have stopped : placeAll (rules.map .standard) placed.length (workload :: others)
          (final.appendNode newcomer) =
            (final.appendNode newcomer, .error (.admission workload.name rejection)) := by
        rw [placeAll, locate_appendNode still_vacant objects (by simp)]
      rw [stopped]
      refine ⟨List.prefix_refl _, fun position node stands _ => getElem?_appendNode stands, ?_, ?_⟩
      · exact fun done _ => by contradiction
      · exact fun failure failed => ⟨failed, rfl⟩

end Session

/-- **A node at the end disturbs nothing.** Let a node that hosts nothing be added at the end of the
list. The run of the standard chain over the longer list upholds the run over the shorter one. So a
feasible report stays as it is, a failure too, and no fewer workloads are schedulable. -/
theorem appended_node_keeps_assignments (vacant : newcomer.Vacant index) (snapshot : Snapshot)
    (batch : List Workload) :
    Session.Upholds ((Session.start snapshot index batch).run .standard)
        ((Session.start (snapshot.appendNode newcomer) index batch).run .standard) ∧
    (∀ report, simulate snapshot index batch = .ok report → report.verdict = .feasible →
      simulate (snapshot.appendNode newcomer) index batch = .ok report) ∧
    (∀ report requested schedulable,
      simulate (snapshot.appendNode newcomer) index batch = .ok report →
      report.verdict = .infeasible requested schedulable →
        ∃ shorter fewer, simulate snapshot index batch = .ok shorter ∧
          shorter.verdict = .infeasible requested fewer ∧ fewer ≤ schedulable) ∧
    ∀ failure, simulate snapshot index batch = .error failure →
      simulate (snapshot.appendNode newcomer) index batch = .error failure := by
  have upholds : Session.Upholds ((Session.start snapshot index batch).run .standard)
      ((Session.start (snapshot.appendNode newcomer) index batch).run .standard) :=
    (Session.start snapshot index batch).upholds_run (by decide) vacant
  refine ⟨upholds, ?_, ?_, ?_⟩
  · intro report simulated feasible
    obtain ⟨done, rfl⟩ := simulateWith_eq_ok_iff.mp simulated
    have all_placed := Session.verdict_eq_feasible_iff.mp feasible
    obtain ⟨also_done, also_placed, same⟩ := upholds.complete done all_placed
    refine simulateWith_eq_ok_iff.mpr ⟨also_done, ?_⟩
    rw [Session.report, Session.report, same, Session.verdict, Session.verdict, also_placed,
      all_placed]
  · intro report requested schedulable simulated infeasible
    obtain ⟨done, rfl⟩ := simulateWith_eq_ok_iff.mp simulated
    obtain ⟨left_over, rfl, rfl⟩ := Session.verdict_eq_infeasible_iff.mp infeasible
    -- the shorter run has neither failed nor placed all, for then the longer one would have too
    have shorter_done : ((Session.start snapshot index batch).run .standard).2 = .ok () := by
      cases outcome : ((Session.start snapshot index batch).run .standard).2 with
      | ok _ => rfl
      | error failure =>
          rw [(upholds.failed failure outcome).1] at done
          contradiction
    have short : ((Session.start snapshot index batch).run .standard).1.firstUnplaced ≠ none :=
      fun all_placed => left_over (upholds.complete shorter_done all_placed).2.1
    refine ⟨_, _, simulateWith_eq_ok_iff.mpr ⟨shorter_done, rfl⟩,
      Session.verdict_eq_infeasible_iff.mpr ⟨short, ?_, rfl⟩,
      upholds.assignments_prefix.length_le⟩
    rw [Session.run, Session.run, Session.batch_placeAll, Session.batch_placeAll]
    rfl
  · intro failure simulated
    exact simulateWith_eq_error_iff.mpr
      (upholds.failed failure (simulateWith_eq_error_iff.mp simulated)).1

namespace Sample

/-- A database that needs no cache, but a zone of its own. -/
def rival (name : String) : Workload :=
  { database name with affinityTerms := [zoneTerm .forbidden "db"] }

def oneZone : Snapshot := { nodes := [dedicated "a" "east", dedicated "b" "east"] }

/-- The second database waits for a zone, and gets the one that is added. -/
theorem appended_node_keeps_assignments_rivals :
    (dedicated "c" "west").Vacant zones.index ∧
      ((Session.start oneZone zones.index [rival "db-0", rival "db-1"]).run
        .standard).1.assignments.map (·.node) = ["a"] ∧
      ((Session.start (oneZone.appendNode (dedicated "c" "west")) zones.index
        [rival "db-0", rival "db-1"]).run .standard).1.assignments.map (·.node) = ["a", "c"] ∧
      ((Session.start oneZone zones.index [rival "db-0", rival "db-1"]).run
          .standard).1.assignments <+:
        ((Session.start (oneZone.appendNode (dedicated "c" "west")) zones.index
          [rival "db-0", rival "db-1"]).run .standard).1.assignments := by
  have vacant : (dedicated "c" "west").Vacant zones.index := ⟨rfl, rfl⟩
  have upheld := (appended_node_keeps_assignments vacant oneZone [rival "db-0", rival "db-1"]).1
  exact ⟨vacant, by rfl, by rfl, upheld.assignments_prefix⟩

end Sample

end Headroom
