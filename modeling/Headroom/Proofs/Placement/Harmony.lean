import Headroom.Proofs.Placement.Run
/-!
# Workloads that get on with each other

Each placement is checked against the workloads that are there at that moment. The result is that
the workloads of a finished run get on with each other whatever came first (`harmonious_run`): what
comes later must respect the forbidden terms of what is there, and a workload that opens a group
is from then on the match that its own required term asks for.
-/

namespace Headroom

variable {view : ClusterView} {workload : Workload} {node : Node} {turn position : Nat}

namespace ClusterView

/-- A proposal on the node at a position, the only one there, gets on with all other workloads. -/
structure Settled (view : ClusterView) (position : Nat) (node : Node) (proposal : Workload) :
    Prop where
  alone : node.placed = [proposal]
  apartFromRunning : ∀ term ∈ proposal.affinityTerms, term.kind = .forbidden →
    ∀ host ∈ view.nodes, node.SameDomain term.topologyKey host →
      ∀ other ∈ view.index.workloadsOn host.name, term.selector.selects other.labels = false
  /-- Other proposals are those on other nodes, placed before or after this one. -/
  apartFromPlaced : ∀ term ∈ proposal.affinityTerms, term.kind = .forbidden →
    ∀ spot host, spot ≠ position → view.nodes[spot]? = some host →
      node.SameDomain term.topologyKey host →
        ∀ other ∈ host.placed, term.selector.selects other.labels = false
  /-- The match of a required term may be the proposal itself. -/
  joined : ∀ term ∈ proposal.affinityTerms, term.kind = .required →
    (∃ value, node.labels.get? term.topologyKey = some value) ∧
      ∃ host other, view.Hosts host other ∧ node.SameDomain term.topologyKey host ∧
        term.selector.selects other.labels = true
  unrepelled : ∀ host ∈ view.nodes, ∀ other ∈ view.index.workloadsOn host.name,
    ∀ term ∈ other.affinityTerms, term.kind = .forbidden → node.SameDomain term.topologyKey host →
      term.selector.selects proposal.labels = false

/-- Every proposal that has been placed gets on with all other workloads. -/
def Harmonious (view : ClusterView) : Prop :=
  ∀ position node proposal, view.nodes[position]? = some node → proposal ∈ node.placed →
    view.Settled position node proposal

/-- A placement changes neither the names nor the labels of the nodes. -/
theorem exists_mem_of_mem_place {host : Node} (stands : view.nodes[position]? = some node)
    (member : host ∈ (view.place workload position node).nodes) :
    ∃ old ∈ view.nodes, old.name = host.name ∧ old.labels = host.labels := by
  rcases List.mem_or_eq_of_mem_set member with old | new
  · exact ⟨host, old, rfl, rfl⟩
  · exact ⟨node, List.mem_of_getElem? stands, by rw [new]; exact ⟨rfl, rfl⟩⟩

/-- A match in a domain is still there after a placement. -/
theorem exists_match_place {key : String} {selector : LabelSelector} {origin : Node}
    (stands : view.nodes[position]? = some node)
    (found : ∃ host other, view.Hosts host other ∧ origin.SameDomain key host ∧
      selector.selects other.labels = true) :
    ∃ host other, (view.place workload position node).Hosts host other ∧
      origin.SameDomain key host ∧ selector.selects other.labels = true :=
  (exists_hosts_place_iff (P := fun host other => origin.SameDomain key host ∧
    selector.selects other.labels = true) stands fun _ => Iff.rfl).mpr (.inl found)

/-- The newcomer gets on with the workloads that welcomed it. -/
theorem Welcomes.settled (welcome : view.Welcomes workload node)
    (stands : view.nodes[position]? = some node) (unused : node.placed = []) :
    (view.place workload position node).Settled position (node.place workload) workload where
  alone := by rw [Node.placed_place, unused, List.nil_append]
  apartFromRunning := by
    intro term declared forbidden host member shared other running
    obtain ⟨old, listed, name_eq, labels_eq⟩ := exists_mem_of_mem_place stands member
    rw [← name_eq] at running
    exact welcome.unopposed term declared forbidden old other ⟨listed, .inl running⟩
      (shared.of_labels_eq rfl labels_eq)
  apartFromPlaced := by
    intro term declared forbidden spot host apart stood shared other placed
    rw [getElem?_place_of_ne apart] at stood
    exact welcome.unopposed term declared forbidden host other
      ⟨List.mem_of_getElem? stood, .inr placed⟩ (shared.of_labels_eq rfl rfl)
  joined := by
    intro term declared required
    obtain ⟨⟨value, carried⟩, found⟩ := welcome.attracted term declared required
    refine ⟨⟨value, carried⟩, ?_⟩
    rcases found with met | ⟨-, selected⟩
    · exact exists_match_place stands met
    · -- the workload opens the group: from now on it is the match itself
      refine ⟨node.place workload, workload, ⟨mem_nodes_place stands, .inr (by simp)⟩, ?_, selected⟩
      exact ⟨by rw [Node.labels_place, carried]; rfl, rfl⟩
  unrepelled := by
    intro host member other running term declared forbidden shared
    obtain ⟨old, listed, name_eq, labels_eq⟩ := exists_mem_of_mem_place stands member
    rw [← name_eq] at running
    exact welcome.unrepelled old other ⟨listed, .inl running⟩ term declared forbidden
      (shared.of_labels_eq rfl labels_eq)

/-- An earlier proposal still gets on with all others once a welcome workload has come. -/
theorem Settled.place {spot : Nat} {host : Node} {proposal : Workload}
    (settled : view.Settled spot host proposal) (elsewhere : spot ≠ position)
    (stood : view.nodes[spot]? = some host) (stands : view.nodes[position]? = some node)
    (unused : node.placed = []) (welcome : view.Welcomes workload node) :
    (view.place workload position node).Settled spot host proposal where
  alone := settled.alone
  apartFromRunning := by
    intro term declared forbidden other_host member shared other running
    obtain ⟨old, listed, name_eq, labels_eq⟩ := exists_mem_of_mem_place stands member
    rw [← name_eq] at running
    exact settled.apartFromRunning term declared forbidden old listed
      (shared.of_labels_eq rfl labels_eq) other running
  apartFromPlaced := by
    intro term declared forbidden place other_host apart found shared other placed
    rcases (getElem?_place_eq_some_iff stands).mp found with ⟨rfl, rfl⟩ | ⟨-, untouched⟩
    · -- the newcomer passed the check against the terms of this proposal
      rw [Node.placed_place, unused, List.nil_append, List.mem_singleton] at placed
      rw [placed]
      have hosts : view.Hosts host proposal :=
        ⟨List.mem_of_getElem? stood, .inr (by rw [settled.alone]; exact List.mem_singleton_self _)⟩
      exact welcome.unrepelled host proposal hosts term declared forbidden
        (shared.symm.of_labels_eq rfl rfl)
    · exact settled.apartFromPlaced term declared forbidden place other_host apart untouched shared
        other placed
  joined := by
    intro term declared required
    obtain ⟨carried, found⟩ := settled.joined term declared required
    exact ⟨carried, exists_match_place stands found⟩
  unrepelled := by
    intro other_host member other running term declared forbidden shared
    obtain ⟨old, listed, name_eq, labels_eq⟩ := exists_mem_of_mem_place stands member
    rw [← name_eq] at running
    exact settled.unrepelled old listed other running term declared forbidden
      (shared.of_labels_eq rfl labels_eq)

/-- Placing a welcome workload on a node without proposals keeps the peace. -/
theorem Harmonious.place (harmony : view.Harmonious) (stands : view.nodes[position]? = some node)
    (unused : node.placed = []) (welcome : view.Welcomes workload node) :
    (view.place workload position node).Harmonious := by
  intro spot host proposal found placed
  rcases (getElem?_place_eq_some_iff stands).mp found with ⟨rfl, rfl⟩ | ⟨elsewhere, untouched⟩
  · rw [Node.placed_place, unused, List.nil_append, List.mem_singleton] at placed
    rw [placed]
    exact welcome.settled stands unused
  · exact (harmony spot host proposal untouched placed).place elsewhere untouched stands unused
      welcome

end ClusterView

/-- A node that a run has not used has no proposals if none had been placed before. -/
theorem ServedAll.placed_eq_nil {rules : List StandardRule} {batch : List Workload}
    {initial current : List Node} (exclusive : .unschedulableExclusion ∈ rules)
    (all : ServedAll rules batch initial current) (unplaced : ∀ node ∈ initial, node.placed = [])
    (stands : current[position]? = some node) (passes : node.Passes rules workload) :
    node.placed = [] := by
  have bound := (List.getElem?_eq_some_iff.mp stands).1
  rw [all.length_eq] at bound
  have stood : initial[position]? = some initial[position] := List.getElem?_eq_getElem bound
  have same := (all.served position _ node stood stands).eq_of_passes exclusive passes
  rw [same]
  exact unplaced _ (List.getElem_mem bound)

/-- What holds throughout a run of the standard chain: the proposals get on with all others, and
each node has served at most one of them. -/
structure Session.Peaceful (session : Session) (batch : List Workload) (initial : List Node) :
    Prop where
  harmony : session.view.Harmonious
  all : ServedAll StandardRule.all batch initial session.snapshot.nodes

theorem Session.Peaceful.place {session : Session} {batch : List Workload} {initial : List Node}
    (peaceful : session.Peaceful batch initial) (unplaced : ∀ node ∈ initial, node.placed = [])
    (listed : workload ∈ batch)
    (found : session.locate .standard workload = .ok (some (position, node))) :
    (session.place turn workload position node).Peaceful batch initial := by
  have fit := firstFit_of_locate found
  obtain ⟨passes, welcome⟩ := ClusterView.accepts_iff.mp fit.accepts
  have unused := peaceful.all.placed_eq_nil (by decide) unplaced fit.getElem?_eq passes
  exact ⟨peaceful.harmony.place fit.getElem?_eq unused (welcome (by decide)),
    peaceful.all.place (by decide) listed fit⟩

/-- **Joint consistency of a run.** When a run of the standard chain over a snapshot without
proposals has ended, in whatever way, every proposal that was placed gets on with every other
workload of the final state. -/
theorem harmonious_run {snapshot : Snapshot} (index : TopologyIndex) (batch : List Workload)
    (unplaced : ∀ node ∈ snapshot.nodes, node.placed = []) :
    ((snapshot.afterRun index batch).view index).Harmonious := by
  have start : (Session.start snapshot index batch).Peaceful batch snapshot.nodes := by
    refine ⟨?_, .refl _⟩
    intro position node proposal stands placed
    rw [unplaced node (List.mem_of_getElem? stands)] at placed
    contradiction
  have peaceful : ((Session.start snapshot index batch).run .standard).1.Peaceful batch
      snapshot.nodes :=
    Session.placeAll_induction (P := fun session => session.Peaceful batch snapshot.nodes)
      (fun session turn workload position node listed peaceful found =>
        peaceful.place unplaced listed found)
      (fun session turn peaceful => ⟨peaceful.harmony, peaceful.all⟩) start
  have harmony := peaceful.harmony
  rw [Session.view, Session.run, Session.index_placeAll] at harmony
  exact harmony

namespace Sample

/-- Two nodes of one zone and one of another, with a cache in each zone. -/
def threeNodes : Snapshot :=
  { nodes := [dedicated "a" "east", dedicated "b" "east", dedicated "c" "west"] }

def caches : TopologyIndex := (({} : TopologyIndex).insert "a" cache).insert "c" cache

def databases : List Workload := [database "db-0", database "db-1", database "db-2"]

/-- Two of three databases find a place, one in each zone, and they keep the peace. -/
theorem harmonious_run_databases :
    (∀ node ∈ threeNodes.nodes, node.placed = []) ∧
      (threeNodes.afterRun caches databases).nodes.map (·.placed.map (·.name)) =
        [["db-0"], [], ["db-1"]] ∧
      ((threeNodes.afterRun caches databases).view caches).Harmonious :=
  ⟨by decide, by rfl, harmonious_run caches databases (by decide)⟩

end Sample

end Headroom
