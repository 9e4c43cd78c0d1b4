import Headroom.Proofs.Placement.Course
/-!
# Shorter batches

A run takes the workloads of its batch one after the other and never looks ahead. So the run over
the first workloads of a batch does what the run over all of them does, as far as there are
workloads, and from where the long run ended both are in the same state (`run_take`). A malformed
workload is found before anything is changed: the run that it stops leaves what the run over the
workloads before it leaves.
-/

namespace Headroom

variable {chain : Chain} {snapshot : Snapshot} {index : TopologyIndex}
  {batch placed rest : List Workload} {last final : Session} {outcome : Except Failure Unit}
  {count : Nat}

namespace Session

/-- The session with another batch. Placements do not depend on it, only the verdict does. -/
def withBatch (session : Session) (batch : List Workload) : Session := { session with batch }

/-- The run over the first workloads of a batch, as part of the session over the whole batch. -/
theorem run_start_take (chain : Chain) (snapshot : Snapshot) (index : TopologyIndex)
    (batch : List Workload) (count : Nat) :
    (start snapshot index (batch.take count)).run chain =
      (placeAll chain 0 (batch.take count) (start snapshot index batch)).map
        (·.withBatch (batch.take count)) id := by
  show placeAll chain 0 _ ((start snapshot index batch).withBatch (batch.take count)) = _
  exact placeAll_map (·.withBatch (batch.take count)) (P := fun _ => True) (fun _ _ _ => rfl)
    (fun _ _ _ _ _ => rfl) (fun _ _ => rfl) (fun _ _ _ _ _ _ _ => trivial) trivial

/-- A run over workloads that the long run has placed places them all. -/
theorem exists_run_take_of_le
    (reached : Reaches chain (start snapshot index (placed ++ rest)) placed last)
    (few : count ≤ placed.length) :
    ∃ earlier, (start snapshot index ((placed ++ rest).take count)).run chain =
        (earlier, .ok ()) ∧ earlier.firstUnplaced = none ∧
      earlier.assignments = last.assignments.take count := by
  obtain ⟨earlier, first, same⟩ := reached.exists_take count
  have taken : (placed ++ rest).take count = placed.take count :=
    List.take_append_of_le_length few
  refine ⟨earlier.withBatch (placed.take count), ?_, first.firstUnplaced_eq, ?_⟩
  · rw [run_start_take, taken, first.placeAll_eq]
    rfl
  · show earlier.assignments = _
    rw [same]
    show last.assignments.take (0 + count) = _
    rw [Nat.zero_add]

/-- A run over the placed workloads and some more ends as the long run does. -/
theorem run_take_of_lt
    (reached : Reaches chain (start snapshot index (placed ++ rest)) placed last)
    (ends : Ends chain placed.length last rest final outcome) (many : placed.length < count) :
    (start snapshot index ((placed ++ rest).take count)).run chain =
      (final.withBatch ((placed ++ rest).take count), outcome) := by
  have beyond : 0 < count - placed.length := Nat.sub_pos_of_lt many
  have taken : (placed ++ rest).take count = placed ++ rest.take (count - placed.length) := by
    rw [List.take_append, List.take_of_length_le (Nat.le_of_lt many)]
  rw [run_start_take]
  nth_rewrite 2 [taken]
  rw [reached.placeAll_append, (ends.take beyond).placeAll_eq]
  rfl

/-- How the run over the first workloads of a batch compares with the run over all of them. -/
structure Curtails (whole part : Session × Except Failure Unit) (count : Nat) : Prop where
  assignments_eq : part.1.assignments = whole.1.assignments.take count
  length_eq : part.1.assignments.length = min count whole.1.assignments.length
  feasible : count ≤ whole.1.assignments.length →
    part.2 = .ok () ∧ part.1.verdict = .feasible
  /-- Nothing comes after the end of a run, whatever the batch. -/
  ended : whole.1.assignments.length < count →
    part = (whole.1.withBatch part.1.batch, whole.2)

end Session

/-- **The prefix law.** The run of any chain over the first workloads of a batch makes the first
assignments of the run over the whole batch, as many as there are workloads for, and it is feasible
if these are no more than the long run makes. If a malformed workload stops the long run, it leaves
the nodes, the assignments and the mark on the session as the run over the workloads before it does,
which succeeds. -/
theorem run_take (chain : Chain) (snapshot : Snapshot) (index : TopologyIndex)
    (batch : List Workload) :
    (∀ count, Session.Curtails ((Session.start snapshot index batch).run chain)
      ((Session.start snapshot index (batch.take count)).run chain) count) ∧
    ∀ failure, ((Session.start snapshot index batch).run chain).2 = .error failure →
      ∃ count workload rejection, batch[count]? = some workload ∧
        failure = .admission workload.name rejection ∧
        ((Session.start snapshot index batch).run chain).1.assignments.length = count ∧
        (Session.start snapshot index (batch.take count)).run chain =
          (((Session.start snapshot index batch).run chain).1.withBatch (batch.take count),
            .ok ()) := by
  obtain ⟨placed, rest, last, rfl, reached, ends, made⟩ :=
    Session.exists_reaches_run_start chain snapshot index batch
  generalize (Session.start snapshot index (placed ++ rest)).run chain = whole at ends made ⊢
  obtain ⟨final, outcome⟩ := whole
  change final.assignments.length = placed.length at made
  constructor
  · intro count
    rcases Nat.lt_or_ge placed.length count with many | few
    · rw [Session.run_take_of_lt reached ends many]
      have all : final.assignments.length ≤ count := by omega
      refine ⟨(List.take_of_length_le all).symm, (Nat.min_eq_right all).symm, ?_, fun _ => rfl⟩
      intro fewer
      have impossible : count ≤ final.assignments.length := fewer
      omega
    · obtain ⟨earlier, short, unmarked, same⟩ := Session.exists_run_take_of_le reached few
      rw [short]
      rw [← ends.assignments_eq] at same
      refine ⟨same, ?_, fun _ => ⟨rfl, Session.verdict_eq_feasible_iff.mpr unmarked⟩, ?_⟩
      · rw [same, List.length_take]
      · intro more
        have impossible : final.assignments.length < count := more
        omega
  · intro failure failed
    cases ends with
    | complete => contradiction
    | unplaceable => contradiction
    | @malformed workload others rejection objects =>
        refine ⟨placed.length, workload, rejection, ?_, ?_, made, ?_⟩
        · rw [List.getElem?_append_right (Nat.le_refl _), Nat.sub_self, List.getElem?_cons_zero]
        · exact (Except.error.inj failed).symm
        · rw [Session.run_start_take, List.take_left' rfl, reached.placeAll_eq]
          rfl

namespace Sample

/-- A workload whose toleration compares the value of no key. -/
def broken : Workload := { name := "broken", tolerations := [{}] }

/-- What the standard chain has to say about it. -/
def comparesNoKey : Rejection :=
  { rule := "TaintToleration", status := .error (.toleration .comparisonWithoutKey) }

/-- A malformed workload between two databases. -/
def interrupted : List Workload := [database "db-1", broken, database "db-2"]

def overZones (batch : List Workload) : Session :=
  Session.start { nodes := zones.nodes } zones.index batch

/-- The run stops at the malformed workload, and leaves what it leaves without the last two. -/
theorem run_take_interrupted :
    ((overZones interrupted).run .standard).2 = .error (.admission "broken" comparesNoKey) ∧
      ((overZones interrupted).run .standard).1.assignments.map (·.node) = ["b"] ∧
      (overZones (interrupted.take 1)).run .standard =
        (((overZones interrupted).run .standard).1.withBatch (interrupted.take 1), .ok ()) := by
  have stopped : ((overZones interrupted).run .standard).2 =
      .error (.admission "broken" comparesNoKey) := by rfl
  obtain ⟨count, -, -, -, -, made, same⟩ :=
    (run_take .standard { nodes := zones.nodes } zones.index interrupted).2 _ stopped
  have one : count = 1 := made.symm.trans (by rfl)
  rw [one] at same
  exact ⟨stopped, by rfl, same⟩

end Sample

end Headroom
