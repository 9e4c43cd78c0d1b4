import Headroom.Proofs.Placement.Course
/-!
# The books of a run

A placement is recorded in four places: in the list of assignments, among the proposals of the node,
by the mark on the node, and in what the node has allocated. When the chain excludes unschedulable
nodes, the four agree in every state of a run and at its end (`run_keeps_books`). Each workload that
was placed has a node of its own, which was charged for it and for nothing else, and all the rest is
as it was at the start.
-/

namespace Headroom

/-- Nothing has been placed yet: no node holds a proposal, and none is marked as used. -/
def Snapshot.Unused (snapshot : Snapshot) : Prop :=
  ∀ node ∈ snapshot.nodes, node.placed = [] ∧ node.consumed = false

instance (snapshot : Snapshot) : Decidable snapshot.Unused :=
  inferInstanceAs (Decidable (∀ _ ∈ _, _))

/-- What becomes of a node in a run: nothing, or it takes one proposal and is charged for it. -/
structure Node.Charged (before after : Node) : Prop where
  atMostOne : after.placed.length ≤ 1
  consumed_iff : after.consumed = true ↔ after.placed ≠ []
  idle : after.placed = [] → after = before
  allocated_eq : ∀ proposal ∈ after.placed,
    after.allocated = before.allocated.add proposal.requests
  /-- The sum of each resource stops at the bounds of an amount. -/
  amount_eq : ∀ proposal ∈ after.placed, ∀ resource, after.allocated.amount resource =
    (before.allocated.amount resource).add (proposal.requests.amount resource)
  podCount_eq : after.podCount = before.podCount + after.placed.length
  /-- Name, labels, taints, allocatable resources, cordon and running pods are as they were. -/
  kept : { after with
    allocated := before.allocated
    consumed := before.consumed
    placed := before.placed } = before

/-- What can be told of a state of a run over a batch from the snapshot and the index at its start
and the positions of the nodes that have been used, in the order of the workloads they took. -/
structure Session.Books (initial : Snapshot) (index : TopologyIndex) (batch : List Workload)
    (places : List Nat) (session : Session) : Prop where
  /-- No node has been used twice. -/
  apart : places.Nodup
  assignments_length : session.assignments.length = places.length
  /-- The assignments are those of the first workloads of the batch, in order. -/
  assigned : ∀ (turn position : Nat), places[turn]? = some position →
    ∃ (workload : Workload) (node : Node), batch[turn]? = some workload ∧
      session.snapshot.nodes[position]? = some node ∧ node.placed = [workload] ∧
      session.assignments[turn]? =
        some { index := turn, workload := workload.name, node := node.name }
  /-- No other node holds a proposal. -/
  used_iff : ∀ (position : Nat) (node : Node), session.snapshot.nodes[position]? = some node →
    (node.placed ≠ [] ↔ position ∈ places)
  nodes_length : session.snapshot.nodes.length = initial.nodes.length
  charged : ∀ (position : Nat) (before after : Node), initial.nodes[position]? = some before →
    session.snapshot.nodes[position]? = some after → before.Charged after
  running_eq : session.snapshot.running = initial.running
  index_eq : session.index = index

variable {initial : Snapshot} {index : TopologyIndex} {batch placed : List Workload}
  {places : List Nat} {session : Session} {rules : List StandardRule} {workload : Workload}
  {position : Nat} {node before after : Node}

/-! ## One node -/

namespace Node

theorem Charged.refl (unplaced : node.placed = []) (unused : node.consumed = false) :
    node.Charged node where
  atMostOne := by simp [unplaced]
  consumed_iff := by simp [unplaced, unused]
  idle := fun _ => rfl
  allocated_eq := by simp [unplaced]
  amount_eq := by simp [unplaced]
  podCount_eq := by simp [unplaced]
  kept := rfl

theorem charged_place (unplaced : node.placed = []) (workload : Workload) :
    node.Charged (node.place workload) := by
  have single : (node.place workload).placed = [workload] := by
    rw [placed_place, unplaced, List.nil_append]
  refine ⟨?_, ?_, ?_, ?_, ?_, ?_, rfl⟩
  · rw [single]
    exact Nat.le_refl 1
  · simp
  · intro none
    rw [single] at none
    contradiction
  · intro proposal member
    rw [single, List.mem_singleton] at member
    rw [member]
    rfl
  · intro proposal member resource
    rw [single, List.mem_singleton] at member
    rw [member]
    exact ResourceList.amount_add node.allocated workload.requests resource
  · rw [single, podCount_place]
    rfl

/-- A node that passes has not been used. -/
theorem Charged.eq_of_passes (charged : before.Charged node)
    (exclusive : .unschedulableExclusion ∈ rules) (passes : node.Passes rules workload) :
    node.placed = [] ∧ node = before := by
  have unused := (closure?_eq_none_iff.mp (passes.closure exclusive)).1
  have unplaced : node.placed = [] := by
    by_contra used
    have marked := charged.consumed_iff.mpr used
    rw [unused] at marked
    contradiction
  exact ⟨unplaced, charged.idle unplaced⟩

end Node

/-! ## One placement -/

namespace Session

theorem Books.start (unused : initial.Unused) (batch : List Workload) :
    (Session.start initial index batch).Books initial index [] [] where
  apart := .nil
  assignments_length := rfl
  assigned := by simp
  used_iff := by
    intro position node stands
    have unplaced := (unused node (List.mem_of_getElem? stands)).1
    simp [unplaced]
  nodes_length := rfl
  charged := by
    intro position before after stood stands
    have same : some before = some after := stood.symm.trans stands
    rw [Option.some.injEq] at same
    rw [← same]
    obtain ⟨unplaced, free⟩ := unused before (List.mem_of_getElem? stood)
    exact .refl unplaced free
  running_eq := rfl
  index_eq := rfl

/-- The end of the search changes nothing in the books. -/
theorem Books.giveUp (books : session.Books initial index batch places) (turn : Nat) :
    (session.giveUp turn).Books initial index batch places where
  apart := books.apart
  assignments_length := books.assignments_length
  assigned := books.assigned
  used_iff := books.used_iff
  nodes_length := books.nodes_length
  charged := books.charged
  running_eq := books.running_eq
  index_eq := books.index_eq

/-- The books of the first workloads are in order for the whole batch. -/
theorem Books.of_isPrefix (books : session.Books initial index placed places)
    (first : placed <+: batch) : session.Books initial index batch places where
  apart := books.apart
  assignments_length := books.assignments_length
  assigned := by
    intro turn position place
    obtain ⟨workload, node, taken, recorded⟩ := books.assigned turn position place
    obtain ⟨others, rfl⟩ := first
    refine ⟨workload, node, ?_, recorded⟩
    rw [List.getElem?_append_left (List.getElem?_eq_some_iff.mp taken).1]
    exact taken
  used_iff := books.used_iff
  nodes_length := books.nodes_length
  charged := books.charged
  running_eq := books.running_eq
  index_eq := books.index_eq

/-- A node that is found has not been used, and is as it was at the start. -/
theorem Books.unused (books : session.Books initial index placed places)
    (exclusive : .unschedulableExclusion ∈ rules)
    (fit : session.FirstFit rules workload position node) :
    node.placed = [] ∧ initial.nodes[position]? = some node ∧ position ∉ places := by
  have stands : session.snapshot.nodes[position]? = some node := fit.getElem?_eq
  have bound : position < initial.nodes.length := by
    rw [← books.nodes_length]
    exact (List.getElem?_eq_some_iff.mp stands).1
  have stood : initial.nodes[position]? = some initial.nodes[position] :=
    List.getElem?_eq_getElem bound
  have passes := (ClusterView.accepts_iff.mp fit.accepts).1
  obtain ⟨unplaced, same⟩ := (books.charged position _ node stood stands).eq_of_passes exclusive
    passes
  refine ⟨unplaced, same ▸ stood, ?_⟩
  intro used
  exact (books.used_iff position node stands).mpr used unplaced

/-- An earlier workload has a node that the placement does not touch, and the last one its own. -/
theorem Books.assigned_place (books : session.Books initial index placed places)
    (even : places.length = placed.length) (unplaced : node.placed = [])
    (stands : session.snapshot.nodes[position]? = some node) (fresh : position ∉ places)
    {turn spot : Nat} (place : (places ++ [position])[turn]? = some spot) :
    ∃ (other : Workload) (host : Node), (placed ++ [workload])[turn]? = some other ∧
      (session.place placed.length workload position node).snapshot.nodes[spot]? = some host ∧
      host.placed = [other] ∧
      (session.place placed.length workload position node).assignments[turn]? =
        some { index := turn, workload := other.name, node := host.name } := by
  by_cases earlier : turn < places.length
  · rw [List.getElem?_append_left earlier] at place
    obtain ⟨other, host, taken, found, alone, recorded⟩ := books.assigned turn spot place
    have elsewhere : spot ≠ position := by
      intro here
      rw [here] at place
      exact fresh (List.mem_of_getElem? place)
    refine ⟨other, host, ?_, ?_, alone, ?_⟩
    · rw [List.getElem?_append_left (even ▸ earlier)]
      exact taken
    · rw [getElem?_nodes_place_of_ne elsewhere]
      exact found
    · show (session.assignments ++ [_])[turn]? = _
      rw [List.getElem?_append_left (books.assignments_length ▸ earlier)]
      exact recorded
  · have last : turn = places.length := by
      have within := (List.getElem?_eq_some_iff.mp place).1
      rw [List.length_append, List.length_singleton] at within
      omega
    rw [last, List.getElem?_concat_length, Option.some.injEq] at place
    subst place
    refine ⟨workload, node.place workload, ?_, getElem?_nodes_place_self stands, ?_, ?_⟩
    · rw [last, even, List.getElem?_concat_length]
    · rw [Node.placed_place, unplaced, List.nil_append]
    · show (session.assignments ++ [_])[turn]? = _
      have counted : session.assignments.length = placed.length :=
        books.assignments_length.trans even
      rw [last, even, ← counted, List.getElem?_concat_length]
      rfl

/-- A placement uses a node that has not been used, and enters it into the books. -/
theorem Books.place (books : session.Books initial index placed places)
    (even : places.length = placed.length) (exclusive : .unschedulableExclusion ∈ rules)
    (fit : session.FirstFit rules workload position node) :
    (session.place placed.length workload position node).Books initial index
      (placed ++ [workload]) (places ++ [position]) := by
  have stands : session.snapshot.nodes[position]? = some node := fit.getElem?_eq
  obtain ⟨unplaced, stood, fresh⟩ := books.unused exclusive fit
  refine ⟨?_, ?_, ?_, ?_, ?_, ?_, books.running_eq, books.index_eq⟩
  · rw [List.nodup_append]
    refine ⟨books.apart, List.pairwise_singleton _ position, ?_⟩
    intro used member other new
    rw [List.mem_singleton.mp new]
    exact fun clash => fresh (clash ▸ member)
  · show (session.assignments ++ [_]).length = _
    rw [List.length_append, List.length_append, books.assignments_length]
    rfl
  · intro turn spot place
    exact books.assigned_place even unplaced stands fresh place
  · intro spot other found
    rw [List.mem_append, List.mem_singleton]
    rcases (getElem?_nodes_place_eq_some_iff stands).mp found with
      ⟨rfl, rfl⟩ | ⟨elsewhere, untouched⟩
    · simp
    · rw [books.used_iff spot other untouched]
      simp [elsewhere]
  · rw [nodes_place, List.length_set]
    exact books.nodes_length
  · intro spot before after began found
    rcases (getElem?_nodes_place_eq_some_iff stands).mp found with ⟨rfl, rfl⟩ | ⟨-, untouched⟩
    · rw [stood, Option.some.injEq] at began
      rw [← began]
      exact Node.charged_place unplaced workload
    · exact books.charged spot before after began untouched

/-! ## Runs -/

/-- The books are in order in every state that placements lead to. -/
theorem Reaches.exists_books (exclusive : .unschedulableExclusion ∈ rules)
    (unused : initial.Unused)
    (reached : Reaches (rules.map .standard) (Session.start initial index batch) placed session) :
    ∃ places, places.length = placed.length ∧ session.Books initial index placed places := by
  induction reached with
  | start => exact ⟨[], rfl, .start unused batch⟩
  | @place placed session workload position node _ found ih =>
      obtain ⟨places, even, books⟩ := ih
      refine ⟨places ++ [position], ?_, books.place even exclusive (firstFit_of_locate found)⟩
      rw [List.length_append, List.length_append, even]
      rfl

end Session

/-- **The books of a run.** Take a snapshot on which nothing has been placed and any chain of
standard rules that excludes unschedulable nodes. The books are in order in every state in which
some first workloads of the batch have been placed, and also when the run has ended, whether all
workloads were placed, one fits nowhere, or one is malformed. -/
theorem run_keeps_books (exclusive : .unschedulableExclusion ∈ rules) (unused : initial.Unused)
    (index : TopologyIndex) (batch : List Workload) :
    (∀ placed session, placed <+: batch →
      Session.Reaches (rules.map .standard) (Session.start initial index batch) placed session →
        ∃ places, places.length = placed.length ∧ session.Books initial index batch places) ∧
    ∃ places, ((Session.start initial index batch).run (rules.map .standard)).1.Books initial index
      batch places := by
  have underway : ∀ placed session, placed <+: batch →
      Session.Reaches (rules.map .standard) (Session.start initial index batch) placed session →
        ∃ places, places.length = placed.length ∧ session.Books initial index batch places := by
    intro placed session first reached
    obtain ⟨places, even, books⟩ := reached.exists_books exclusive unused
    exact ⟨places, even, books.of_isPrefix first⟩
  refine ⟨underway, ?_⟩
  obtain ⟨placed, rest, last, split, reached, ends⟩ :=
    Session.exists_reaches_run (rules.map .standard) (Session.start initial index batch)
  obtain ⟨places, -, books⟩ := underway placed last ⟨rest, split.symm⟩ reached
  refine ⟨places, ?_⟩
  rcases ends.eq_or_eq_giveUp with same | marked
  · rw [same]
    exact books
  · rw [marked]
    exact books.giveUp _

namespace Sample

/-- A node that shares its name with another one. -/
def twin : Node :=
  { name := "twin", allocatable := .cpuMemory { val := 4 } .zero, runningPods := 1 }

def twins : Snapshot := { nodes := [twin, twin] }

/-- A workload that takes all of a twin. -/
def job (name : String) : Workload := { name, requests := .cpuMemory { val := 4 } .zero }

/-- A workload that asks for a label without a name. -/
def garbled : Workload :=
  { name := "garbled", nodeAffinity := some [{ requirements := [.isPresent ""] }] }

def jobs : List Workload := [job "first", job "second", garbled]

/-- Exclusion comes last, after the rules on labels and resources. -/
def lateExclusion : List StandardRule := [.nodeAffinity, .resourceFit, .unschedulableExclusion]

/-- Each twin takes one job before the malformed workload stops the run. -/
theorem run_keeps_books_twins :
    StandardRule.unschedulableExclusion ∈ lateExclusion ∧ twins.Unused ∧
      ((Session.start twins {} jobs).run (lateExclusion.map .standard)).2 =
        .error (.admission "garbled"
          { rule := "NodeAffinity", status := .error (.nodeAffinity .emptyKey) }) ∧
      ∃ places, places.length = 2 ∧
        ((Session.start twins {} jobs).run (lateExclusion.map .standard)).1.Books twins {} jobs
          places := by
  have exclusive : StandardRule.unschedulableExclusion ∈ lateExclusion := by decide
  have unused : twins.Unused := by decide
  refine ⟨exclusive, unused, by rfl, ?_⟩
  obtain ⟨places, books⟩ := (run_keeps_books exclusive unused {} jobs).2
  refine ⟨places, ?_, books⟩
  rw [← books.assignments_length]
  rfl

end Sample

end Headroom
