import Headroom.Placement
import Headroom.Proofs.Admission.Admissible
/-!
# Runs of a chain of standard rules

The search finds the first node that the chain accepts (`firstFit_of_locate`), and it has a result
for every well-formed workload (`exists_locate_eq_ok`). A run is a sequence of such placements
(`placeAll_induction`). If the chain excludes unschedulable nodes, a run leaves each node as it was
or puts one workload of the batch on it, which the node was fit for as it stood at the start
(`servedAll_placeAll`).
-/

namespace Headroom

/-- What the rules see of a snapshot. -/
def Snapshot.view (snapshot : Snapshot) (index : TopologyIndex) : ClusterView :=
  { nodes := snapshot.nodes, index }

/-- The snapshot that a run of the standard chain leaves behind, however it ends. -/
def Snapshot.afterRun (snapshot : Snapshot) (index : TopologyIndex) (batch : List Workload) :
    Snapshot :=
  ((Session.start snapshot index batch).run .standard).1.snapshot

/-- What a chain has got ready objects to a node, and not to the workload. -/
def Prepared.TurnsDown (prepared : Prepared) (view : ClusterView) (workload : Workload)
    (node : Node) : Prop :=
  ∃ rejection, prepared.judge view workload node = .error rejection ∧
    rejection.status.isError = false

variable {view : ClusterView} {workload : Workload} {node : Node} {prepared : Prepared}
  {rules : List StandardRule} {session : Session} {batch : List Workload} {position turn : Nat}

/-! ## The search for a node -/

theorem Prepared.TurnsDown.judge_ne_ok (turnedDown : prepared.TurnsDown view workload node) :
    prepared.judge view workload node ≠ .ok () := by
  obtain ⟨rejection, objects, -⟩ := turnedDown
  rw [objects]
  nofun

namespace Session

/-- A search that comes to an end has passed over nodes that are turned down, either all of them or
those before one that is accepted. -/
theorem exists_append_of_search {nodes : List Node} {offset : Nat} {place : Option (Nat × Node)}
    (found : search prepared view workload offset nodes = .ok place) :
    ∃ before rest, nodes = before ++ rest ∧
      (∀ other ∈ before, prepared.TurnsDown view workload other) ∧
      (rest = [] ∧ place = none ∨ ∃ node after, rest = node :: after ∧
        prepared.judge view workload node = .ok () ∧
          place = some (offset + before.length, node)) := by
  induction nodes generalizing offset with
  | nil =>
      cases found
      exact ⟨[], [], rfl, by simp, .inl ⟨rfl, rfl⟩⟩
  | cons head rest ih =>
      unfold search at found
      cases verdict : prepared.judge view workload head with
      | ok accepted =>
          rw [verdict] at found
          cases found
          exact ⟨[], head :: rest, rfl, by simp, .inr ⟨head, rest, rfl, verdict, rfl⟩⟩
      | error rejection =>
          simp only [verdict] at found
          split at found
          · contradiction
          · next harmless =>
              obtain ⟨before, others, split, turnedDown, ended⟩ := ih found
              refine ⟨head :: before, others, by rw [split, List.cons_append], ?_, ?_⟩
              · rw [List.forall_mem_cons]
                exact ⟨⟨rejection, verdict, by simpa using harmless⟩, turnedDown⟩
              · rw [List.length_cons, Nat.add_comm before.length, ← Nat.add_assoc]
                exact ended

/-- The search stops at the first node that is accepted. -/
theorem search_eq_some {nodes : List Node} {start : Nat}
    (found : search prepared view workload start nodes = .ok (some (position, node))) :
    ∃ before after, nodes = before ++ node :: after ∧ position = start + before.length ∧
      prepared.judge view workload node = .ok () ∧
      ∀ other ∈ before, prepared.judge view workload other ≠ .ok () := by
  obtain ⟨before, rest, split, turnedDown, ended⟩ := exists_append_of_search found
  rcases ended with ⟨-, nowhere⟩ | ⟨chosen, after, rfl, accepted, place⟩
  · contradiction
  · cases place
    exact ⟨before, after, split, rfl, accepted,
      fun other earlier => (turnedDown other earlier).judge_ne_ok⟩

theorem search_eq_none {nodes : List Node} {start : Nat}
    (found : search prepared view workload start nodes = .ok none) :
    ∀ other ∈ nodes, prepared.judge view workload other ≠ .ok () := by
  obtain ⟨before, rest, split, turnedDown, ended⟩ := exists_append_of_search found
  rcases ended with ⟨rfl, -⟩ | ⟨chosen, after, -, -, place⟩
  · intro other member
    rw [split, List.append_nil] at member
    exact (turnedDown other member).judge_ne_ok
  · contradiction

/-- Objections to nodes do not stop the search. -/
theorem exists_search_eq_ok (nodes : List Node) (start : Nat)
    (calm : ∀ other rejection, prepared.judge view workload other = .error rejection →
      rejection.status.isError = false) :
    ∃ place, search prepared view workload start nodes = .ok place := by
  induction nodes generalizing start with
  | nil => exact ⟨none, rfl⟩
  | cons head rest ih =>
      unfold search
      cases verdict : prepared.judge view workload head with
      | ok accepted => exact ⟨_, rfl⟩
      | error rejection =>
          simp only [calm head rejection verdict, Bool.false_eq_true, if_false]
          exact ih (start + 1)

/-- What the search finds: the first node that no rule has anything against, with its place. -/
def FirstFit (session : Session) (rules : List StandardRule) (workload : Workload)
    (position : Nat) (node : Node) : Prop :=
  ∃ before after, session.snapshot.nodes = before ++ node :: after ∧ position = before.length ∧
    session.view.Accepts rules workload node ∧
    ∀ other ∈ before, ¬ session.view.Accepts rules workload other

theorem FirstFit.getElem?_eq (fit : session.FirstFit rules workload position node) :
    session.view.nodes[position]? = some node := by
  obtain ⟨before, after, split, rfl, -⟩ := fit
  simp [view, split]

theorem FirstFit.accepts (fit : session.FirstFit rules workload position node) :
    session.view.Accepts rules workload node := by
  obtain ⟨before, after, -, -, accepted, -⟩ := fit
  exact accepted

theorem firstFit_of_locate
    (found : session.locate (rules.map .standard) workload = .ok (some (position, node))) :
    session.FirstFit rules workload position node := by
  obtain ⟨prepared, ready, found⟩ := bind_eq_ok_iff.mp found
  obtain ⟨before, after, split, place, accepted, passedOver⟩ := search_eq_some found
  refine ⟨before, after, split, by omega, (Prepared.judge_eq_ok_iff ready).mp accepted, ?_⟩
  intro other earlier accepted
  exact passedOver other earlier ((Prepared.judge_eq_ok_iff ready).mpr accepted)

theorem not_accepts_of_locate
    (found : session.locate (rules.map .standard) workload = .ok none) :
    ∀ other ∈ session.view.nodes, ¬ session.view.Accepts rules workload other := by
  obtain ⟨prepared, ready, found⟩ := bind_eq_ok_iff.mp found
  intro other listed accepted
  exact search_eq_none found other listed ((Prepared.judge_eq_ok_iff ready).mpr accepted)

/-- The search for a well-formed workload has a result, whatever the nodes are like. -/
theorem exists_locate_eq_ok (formed : ∀ rule ∈ rules, rule.check workload = .ok ()) :
    ∃ place, session.locate (rules.map .standard) workload = .ok place := by
  obtain ⟨prepared, ready⟩ := Chain.exists_prepare_eq_ok_iff.mpr formed
  obtain ⟨place, found⟩ := exists_search_eq_ok session.snapshot.nodes 0
    fun other rejection => Prepared.judge_isError_eq_false ready
  exact ⟨place, bind_eq_ok_iff.mpr ⟨prepared, ready, found⟩⟩

/-! ## One placement -/

@[simp] theorem nodes_place :
    (session.place turn workload position node).snapshot.nodes =
      session.snapshot.nodes.set position (node.place workload) := rfl

end Session

/-- What the rules see once a workload has been placed on a node. -/
def ClusterView.place (view : ClusterView) (workload : Workload) (position : Nat) (node : Node) :
    ClusterView :=
  { view with nodes := view.nodes.set position (node.place workload) }

theorem Session.view_place :
    (session.place turn workload position node).view =
      session.view.place workload position node := rfl

namespace ClusterView

theorem getElem?_place_self (stands : view.nodes[position]? = some node) :
    (view.place workload position node).nodes[position]? = some (node.place workload) :=
  List.getElem?_set_self (List.getElem?_eq_some_iff.mp stands).1

theorem getElem?_place_of_ne {spot : Nat} (elsewhere : spot ≠ position) :
    (view.place workload position node).nodes[spot]? = view.nodes[spot]? :=
  List.getElem?_set_ne (Ne.symm elsewhere)

/-- After a placement there stands the node with its workload, or what has stood there before. -/
theorem getElem?_place_eq_some_iff {spot : Nat} {other : Node}
    (stands : view.nodes[position]? = some node) :
    (view.place workload position node).nodes[spot]? = some other ↔
      spot = position ∧ node.place workload = other ∨
        spot ≠ position ∧ view.nodes[spot]? = some other := by
  by_cases here : spot = position
  · rw [here, getElem?_place_self stands]
    simp
  · rw [getElem?_place_of_ne here]
    simp [here]

theorem mem_nodes_place (stands : view.nodes[position]? = some node) :
    node.place workload ∈ (view.place workload position node).nodes :=
  List.mem_of_getElem? (getElem?_place_self stands)

/-- A placement adds one workload to its node and leaves all others where they are. A property
that cannot tell the node from the one it was holds of a pair as it did before. -/
theorem exists_hosts_place_iff {P : Node → Workload → Prop}
    (stands : view.nodes[position]? = some node)
    (blind : ∀ other, P (node.place workload) other ↔ P node other) :
    (∃ host other, (view.place workload position node).Hosts host other ∧ P host other) ↔
      (∃ host other, view.Hosts host other ∧ P host other) ∨ P node workload := by
  have listed : node ∈ view.nodes := List.mem_of_getElem? stands
  have put : node.place workload ∈ (view.place workload position node).nodes :=
    mem_nodes_place stands
  constructor
  · rintro ⟨host, other, ⟨member, hosted⟩, holds⟩
    rcases List.mem_or_eq_of_mem_set member with old | new
    · exact .inl ⟨host, other, ⟨old, hosted⟩, holds⟩
    · subst new
      rw [blind] at holds
      rcases hosted with running | placed
      · exact .inl ⟨node, other, ⟨listed, .inl running⟩, holds⟩
      · rcases List.mem_append.mp placed with earlier | newcomer
        · exact .inl ⟨node, other, ⟨listed, .inr earlier⟩, holds⟩
        · rw [List.mem_singleton.mp newcomer] at holds
          exact .inr holds
  · rintro (⟨host, other, ⟨member, hosted⟩, holds⟩ | holds)
    · obtain ⟨spot, stood⟩ := List.getElem?_of_mem member
      by_cases here : spot = position
      · rw [here, stands, Option.some.injEq] at stood
        subst stood
        exact ⟨node.place workload, other, ⟨put, hosted.imp_right (List.mem_append_left _)⟩,
          (blind other).mpr holds⟩
      · have kept : (view.place workload position node).nodes[spot]? = some host := by
          rw [getElem?_place_of_ne here, stood]
        exact ⟨host, other, ⟨List.mem_of_getElem? kept, hosted⟩, holds⟩
    · exact ⟨node.place workload, workload, ⟨put, .inr (by simp)⟩, (blind workload).mpr holds⟩

theorem forall_hosts_place_iff {P : Node → Workload → Prop}
    (stands : view.nodes[position]? = some node)
    (blind : ∀ other, P (node.place workload) other ↔ P node other) :
    (∀ host other, (view.place workload position node).Hosts host other → P host other) ↔
      (∀ host other, view.Hosts host other → P host other) ∧ P node workload := by
  have moved : (∃ host other, (view.place workload position node).Hosts host other ∧
      ¬ P host other) ↔ _ :=
    exists_hosts_place_iff (P := fun host other => ¬ P host other) stands
      fun other => not_congr (blind other)
  simpa only [not_exists, not_and, not_or, Classical.not_not] using not_congr moved

end ClusterView

namespace Session

theorem getElem?_nodes_place_self (stands : session.snapshot.nodes[position]? = some node) :
    (session.place turn workload position node).snapshot.nodes[position]? =
      some (node.place workload) := by
  show (session.view.place workload position node).nodes[position]? = _
  exact ClusterView.getElem?_place_self stands

theorem getElem?_nodes_place_of_ne {spot : Nat} (elsewhere : spot ≠ position) :
    (session.place turn workload position node).snapshot.nodes[spot]? =
      session.snapshot.nodes[spot]? := by
  show (session.view.place workload position node).nodes[spot]? = session.view.nodes[spot]?
  exact ClusterView.getElem?_place_of_ne elsewhere

theorem getElem?_nodes_place_eq_some_iff {spot : Nat} {other : Node}
    (stands : session.snapshot.nodes[position]? = some node) :
    (session.place turn workload position node).snapshot.nodes[spot]? = some other ↔
      spot = position ∧ node.place workload = other ∨
        spot ≠ position ∧ session.snapshot.nodes[spot]? = some other := by
  show (session.view.place workload position node).nodes[spot]? = _ ↔ _
  exact ClusterView.getElem?_place_eq_some_iff stands

/-! ## Runs -/

/-- What every placement keeps, and the end of the search does, holds at the end of a run. -/
theorem placeAll_induction {chain : Chain} {P : Session → Prop}
    (places : ∀ session turn workload position node, workload ∈ batch → P session →
      session.locate chain workload = .ok (some (position, node)) →
        P (session.place turn workload position node))
    (ends : ∀ session turn, P session → P (session.giveUp turn)) (start : P session) :
    P (placeAll chain turn batch session).1 := by
  induction batch generalizing turn session with
  | nil => exact start
  | cons workload rest ih =>
      have later := fun session turn next position node member =>
        places session turn next position node (List.mem_cons_of_mem workload member)
      unfold placeAll
      split
      · exact start
      · exact ends session turn start
      · next position node found =>
          exact ih later (places session turn workload position node List.mem_cons_self start found)

theorem index_placeAll {chain : Chain} :
    (placeAll chain turn batch session).1.index = session.index :=
  placeAll_induction (P := fun later => later.index = session.index)
    (fun _ _ _ _ _ _ same _ => same) (fun _ _ same => same) rfl

theorem batch_placeAll {chain : Chain} :
    (placeAll chain turn batch session).1.batch = session.batch :=
  placeAll_induction (P := fun later => later.batch = session.batch)
    (fun _ _ _ _ _ _ same _ => same) (fun _ _ same => same) rfl

/-- Nothing is taken back. -/
theorem assignments_prefix_placeAll (chain : Chain) (turn : Nat) (batch : List Workload)
    (session : Session) :
    session.assignments <+: (placeAll chain turn batch session).1.assignments :=
  placeAll_induction (P := fun later => session.assignments <+: later.assignments)
    (fun _ _ _ _ _ _ kept _ => kept.trans (List.prefix_append _ _)) (fun _ _ kept => kept)
    (List.prefix_refl _)

theorem verdict_eq_feasible_iff : session.verdict = .feasible ↔ session.firstUnplaced = none := by
  unfold verdict
  cases session.firstUnplaced <;> simp

theorem verdict_eq_infeasible_iff {requested schedulable : Nat} :
    session.verdict = .infeasible requested schedulable ↔ session.firstUnplaced ≠ none ∧
      session.batch.length = requested ∧ session.assignments.length = schedulable := by
  unfold verdict
  cases session.firstUnplaced <;> simp

end Session

theorem simulateWith_eq_ok_iff {chain : Chain} {snapshot : Snapshot} {index : TopologyIndex}
    {report : Report} :
    simulateWith chain snapshot index batch = .ok report ↔
      ((Session.start snapshot index batch).run chain).2 = .ok () ∧
        ((Session.start snapshot index batch).run chain).1.report = report := by
  unfold simulateWith
  rcases (Session.start snapshot index batch).run chain with ⟨final, outcome⟩
  cases outcome <;> simp

theorem simulateWith_eq_error_iff {chain : Chain} {snapshot : Snapshot} {index : TopologyIndex}
    {failure : Failure} :
    simulateWith chain snapshot index batch = .error failure ↔
      ((Session.start snapshot index batch).run chain).2 = .error failure := by
  unfold simulateWith
  rcases (Session.start snapshot index batch).run chain with ⟨final, outcome⟩
  cases outcome <;> simp

/-- A chain that excludes unschedulable nodes accepts none that has been used. -/
theorem ClusterView.Accepts.consumed_eq_false (exclusive : .unschedulableExclusion ∈ rules)
    (accepted : view.Accepts rules workload node) : node.consumed = false :=
  (Node.closure?_eq_none_iff.mp ((accepts_iff.mp accepted).1.closure exclusive)).1

/-- A run leaves the nodes that have been used as they are. -/
theorem Session.getElem?_placeAll_of_consumed (exclusive : .unschedulableExclusion ∈ rules)
    (stands : session.snapshot.nodes[position]? = some node) (used : node.consumed = true) :
    (placeAll (rules.map .standard) turn batch session).1.snapshot.nodes[position]? =
      some node := by
  refine placeAll_induction (P := fun later => later.snapshot.nodes[position]? = some node)
    (fun later turn workload spot chosen _ stood found => ?_) (fun _ _ stood => stood) stands
  have fit := firstFit_of_locate found
  have elsewhere : position ≠ spot := by
    intro here
    subst here
    have same : some chosen = some node := fit.getElem?_eq.symm.trans stood
    rw [Option.some.injEq] at same
    have unused := fit.accepts.consumed_eq_false exclusive
    rw [same, used] at unused
    contradiction
  exact (getElem?_nodes_place_of_ne elsewhere).trans stood

/-- What a run makes of a node: the node as it was, or with one workload that it was fit for. -/
inductive Node.Served (rules : List StandardRule) (batch : List Workload) (node : Node) :
    Node → Prop
  | idle : Served rules batch node node
  | used {workload : Workload} : workload ∈ batch → node.Passes rules workload →
      Served rules batch node (node.place workload)

/-- Every node of a list, at its place, after a run that found them as in another list. -/
structure ServedAll (rules : List StandardRule) (batch : List Workload) (before after : List Node) :
    Prop where
  length_eq : after.length = before.length
  served : ∀ (position : Nat) (initial final : Node), before[position]? = some initial →
    after[position]? = some final → initial.Served rules batch final

theorem Node.Served.eq_of_passes {initial current : Node}
    (exclusive : .unschedulableExclusion ∈ rules) (served : initial.Served rules batch current)
    (passes : current.Passes rules workload) : current = initial := by
  cases served with
  | idle => rfl
  | used listed fit =>
      have closure := passes.closure exclusive
      simp [closure?] at closure

/-- A placement serves a node that the run has not used yet. -/
theorem ServedAll.place {initial : List Node} (exclusive : .unschedulableExclusion ∈ rules)
    (listed : workload ∈ batch) (all : ServedAll rules batch initial session.snapshot.nodes)
    (fit : session.FirstFit rules workload position node) :
    ServedAll rules batch initial (session.place turn workload position node).snapshot.nodes := by
  have passes := (ClusterView.accepts_iff.mp fit.accepts).1
  have stands : session.snapshot.nodes[position]? = some node := fit.getElem?_eq
  refine ⟨by rw [Session.nodes_place, List.length_set, all.length_eq], ?_⟩
  intro spot before after stood found
  rcases (Session.getElem?_nodes_place_eq_some_iff stands).mp found with
    ⟨rfl, rfl⟩ | ⟨-, untouched⟩
  · -- a node that passes has not been used, so it is the one of the start
    have same := (all.served spot before node stood stands).eq_of_passes exclusive passes
    rw [same]
    exact .used listed (same ▸ passes)
  · exact all.served spot before after stood untouched

theorem ServedAll.refl (nodes : List Node) : ServedAll rules batch nodes nodes := by
  refine ⟨rfl, fun position initial final stood found => ?_⟩
  rw [stood, Option.some.injEq] at found
  rw [found]
  exact .idle

/-- A run that excludes unschedulable nodes serves each node at most once. -/
theorem Session.servedAll_placeAll (exclusive : .unschedulableExclusion ∈ rules) :
    ServedAll rules batch session.snapshot.nodes
      (placeAll (rules.map .standard) turn batch session).1.snapshot.nodes := by
  refine placeAll_induction
    (P := fun later => ServedAll rules batch session.snapshot.nodes later.snapshot.nodes)
    (fun later turn workload position node listed all found => ?_) (fun _ _ all => all) (.refl _)
  exact all.place exclusive listed (firstFit_of_locate found)

end Headroom
