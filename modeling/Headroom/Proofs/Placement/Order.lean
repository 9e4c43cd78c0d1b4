import Headroom.Proofs.Placement.Course
/-!
# The order of rules, and skipping

A chain names the first rule that objects, so its order shows in what is reported. It does not show
in what is done. Chains of the same standard rules get ready for the same workloads and accept the
same nodes (`Prepared.Decides`), also if rules that may be skipped take part in the search all the
same. Their runs go through the same states to the same end (`run_eq_of_same_rules`); only the
objection to a malformed workload may be another.
-/

namespace Headroom

variable {left right rules : List StandardRule} {view : ClusterView} {workload : Workload}
  {first second prepared : Prepared} {session : Session}

/-! ## Decisions -/

/-- What is ready decides as some standard rules do: it accepts the nodes that none of them has
anything against, and objects to the others without calling the workload malformed. -/
structure Prepared.Decides (prepared : Prepared) (rules : List StandardRule) (view : ClusterView)
    (workload : Workload) : Prop where
  judge_eq_ok_iff : ∀ node,
    prepared.judge view workload node = .ok () ↔ view.Accepts rules workload node
  isError_eq_false : ∀ node rejection,
    prepared.judge view workload node = .error rejection → rejection.status.isError = false

/-- A chain that is ready for a workload, with every rule taking part in the search. -/
def Chain.unskipped (chain : Chain) (prepared : Prepared) : Prepared :=
  { prepared with rules := chain }

namespace Prepared

theorem decides_of_prepare
    (ready : Chain.prepare (rules.map .standard) view workload = .ok prepared) :
    prepared.Decides rules view workload where
  judge_eq_ok_iff := fun _ => Prepared.judge_eq_ok_iff ready
  isError_eq_false := fun _ _ => judge_isError_eq_false ready

/-- A rule that may be skipped would not have objected. -/
theorem decides_unskipped
    (ready : Chain.prepare (rules.map .standard) view workload = .ok prepared) :
    (Chain.unskipped (rules.map .standard) prepared).Decides rules view workload where
  judge_eq_ok_iff := by
    intro node
    have active : (Chain.unskipped (rules.map .standard) prepared).rules = rules.map .standard :=
      rfl
    rw [judge_eq_ok_iff_of_rules active]
    refine forall₂_congr fun rule member => ?_
    show rule.obstacle? view prepared.notes workload node = none ↔ _
    rw [obstacle?_notes ready member]
  isError_eq_false := fun _ _ => judge_isError_eq_false_of_rules rfl

theorem Decides.of_same_rules (same : ∀ rule, rule ∈ left ↔ rule ∈ right)
    (decides : prepared.Decides left view workload) : prepared.Decides right view workload where
  judge_eq_ok_iff := by
    intro node
    rw [decides.judge_eq_ok_iff node]
    exact forall_congr' fun rule => imp_congr_left (same rule)
  isError_eq_false := decides.isError_eq_false

/-- A search finds the same place with whatever decides alike, also in another view of the cluster
in which the same nodes are accepted. -/
theorem Decides.search_eq {mirror : ClusterView} (one : first.Decides rules view workload)
    (other : second.Decides rules mirror workload)
    (alike : ∀ node, view.Accepts rules workload node ↔ mirror.Accepts rules workload node)
    (nodes : List Node) (position : Nat) :
    Session.search first view workload position nodes =
      Session.search second mirror workload position nodes := by
  induction nodes generalizing position with
  | nil => rfl
  | cons node rest ih =>
      have agree := (one.judge_eq_ok_iff node).trans
        ((alike node).trans (other.judge_eq_ok_iff node).symm)
      unfold Session.search
      cases here : first.judge view workload node with
      | ok _ => rw [agree.mp here]
      | error rejection =>
          cases there : second.judge mirror workload node with
          | ok _ =>
              have accepted := agree.mpr there
              rw [here] at accepted
              contradiction
          | error objection =>
              simp only [one.isError_eq_false node rejection here,
                other.isError_eq_false node objection there, Bool.false_eq_true, if_false]
              exact ih (position + 1)

end Prepared

/-! ## Searches -/

namespace Session

/-- The place for a workload when no rule is skipped. -/
def locateUnskipped (session : Session) (chain : Chain) (workload : Workload) :
    Except Rejection (Option (Nat × Node)) := do
  let prepared ← chain.prepare session.view workload
  search (chain.unskipped prepared) session.view workload 0 session.snapshot.nodes

/-- Whatever is done with chains that are ready, chains of the same rules agree on where it
fails. -/
theorem toOption_bind_prepare {α : Type} (same : ∀ rule, rule ∈ left ↔ rule ∈ right)
    {next after : Prepared → Except Rejection α}
    (agree : ∀ first second, Chain.prepare (left.map .standard) view workload = .ok first →
      Chain.prepare (right.map .standard) view workload = .ok second →
        next first = after second) :
    (Chain.prepare (left.map .standard) view workload >>= next).toOption =
      (Chain.prepare (right.map .standard) view workload >>= after).toOption := by
  have formed : (∃ first, Chain.prepare (left.map .standard) view workload = .ok first) ↔
      ∃ second, Chain.prepare (right.map .standard) view workload = .ok second := by
    rw [Chain.exists_prepare_eq_ok_iff, Chain.exists_prepare_eq_ok_iff]
    exact forall_congr' fun rule => imp_congr_left (same rule)
  cases one : Chain.prepare (left.map .standard) view workload with
  | ok first =>
      obtain ⟨second, other⟩ := formed.mp ⟨first, one⟩
      rw [other, ok_bind, ok_bind, agree first second one other]
  | error objection =>
      cases other : Chain.prepare (right.map .standard) view workload with
      | ok second =>
          obtain ⟨first, ready⟩ := formed.mpr ⟨second, other⟩
          rw [one] at ready
          contradiction
      | error => rfl

/-- Chains of the same rules find the same place for a workload, or both call it malformed. -/
theorem toOption_locate_eq (same : ∀ rule, rule ∈ left ↔ rule ∈ right) :
    (session.locate (left.map .standard) workload).toOption =
      (session.locate (right.map .standard) workload).toOption := by
  refine toOption_bind_prepare same fun first second one other => ?_
  exact ((Prepared.decides_of_prepare one).of_same_rules same).search_eq
    (Prepared.decides_of_prepare other) (fun _ => Iff.rfl) _ 0

theorem toOption_locateUnskipped_eq (same : ∀ rule, rule ∈ left ↔ rule ∈ right) :
    (session.locate (left.map .standard) workload).toOption =
      (session.locateUnskipped (right.map .standard) workload).toOption := by
  refine toOption_bind_prepare same fun first second one other => ?_
  exact ((Prepared.decides_of_prepare one).of_same_rules same).search_eq
    (Prepared.decides_unskipped other) (fun _ => Iff.rfl) _ 0

/-! ## Runs -/

/-- Places some workloads in order as `placeAll` does, with any search for their places. -/
def placeAllBy (find : Session → Workload → Except Rejection (Option (Nat × Node))) :
    Nat → List Workload → Session → Session × Except Failure Unit
  | _, [], session => (session, .ok ())
  | turn, workload :: rest, session =>
      match find session workload with
      | .error rejection => (session, .error (.admission workload.name rejection))
      | .ok none => (session.giveUp turn, .ok ())
      | .ok (some (position, node)) =>
          placeAllBy find (turn + 1) rest (session.place turn workload position node)

/-- The run of a session that has just been started when no rule is skipped. -/
def runUnskipped (chain : Chain) (session : Session) : Session × Except Failure Unit :=
  placeAllBy (fun session => session.locateUnskipped chain) 0 session.batch session

theorem placeAllBy_locate (chain : Chain) (turn : Nat) (batch : List Workload)
    (session : Session) :
    placeAllBy (fun session => session.locate chain) turn batch session =
      placeAll chain turn batch session := by
  induction batch generalizing turn session with
  | nil => rfl
  | cons workload rest ih =>
      unfold placeAllBy placeAll
      split <;> simp only [*]

/-- Two ends of runs that have left the same state: neither failed, or both did because of the
first workload of the batch that has not been placed, whatever they object to. -/
inductive EndAlike (final : Session) : Except Failure Unit → Except Failure Unit → Prop
  | done : EndAlike final (.ok ()) (.ok ())
  | malformed {workload : Workload} (rejection objection : Rejection) :
      final.batch[final.assignments.length]? = some workload →
      EndAlike final (.error (.admission workload.name rejection))
        (.error (.admission workload.name objection))

/-- Two runs that leave the same state, with assignments, nodes and verdict, and end alike. -/
structure SameCourse (one other : Session × Except Failure Unit) : Prop where
  state_eq : other.1 = one.1
  end_alike : EndAlike one.1 one.2 other.2

/-- Runs with searches that find the same places go through the same states. -/
theorem sameCourse_placeAllBy
    {find seek : Session → Workload → Except Rejection (Option (Nat × Node))}
    (agree : ∀ session workload, (find session workload).toOption =
      (seek session workload).toOption) {turn : Nat} {batch : List Workload}
    (left_over : session.batch.drop session.assignments.length = batch) :
    SameCourse (placeAllBy find turn batch session) (placeAllBy seek turn batch session) := by
  induction batch generalizing turn session with
  | nil => exact ⟨rfl, .done⟩
  | cons workload rest ih =>
      have found := agree session workload
      unfold placeAllBy
      cases one : find session workload with
      | error rejection =>
          cases other : seek session workload with
          | ok => simp [one, other, Except.toOption] at found
          | error objection =>
              refine ⟨rfl, .malformed rejection objection ?_⟩
              rw [← List.head?_drop, left_over, List.head?_cons]
      | ok place =>
          cases other : seek session workload with
          | error => simp [one, other, Except.toOption] at found
          | ok spot =>
              rw [one, other] at found
              simp only [Except.toOption, Option.some.injEq] at found
              subst found
              cases place with
              | none => exact ⟨rfl, .done⟩
              | some target =>
                  obtain ⟨position, node⟩ := target
                  refine ih ?_
                  show session.batch.drop (session.assignments ++ [_]).length = rest
                  rw [List.length_append, List.length_singleton, ← List.drop_drop, left_over]
                  rfl

end Session

/-- **The order of rules never matters for the outcome, and neither does skipping.** Take two chains
of standard rules with the same members, in any order and with any repetitions. Over any snapshot,
index and batch their runs leave the same state and end alike, and so does the run of the second
chain in which no rule is skipped. -/
theorem run_eq_of_same_rules (same : ∀ rule, rule ∈ left ↔ rule ∈ right) (snapshot : Snapshot)
    (index : TopologyIndex) (batch : List Workload) :
    Session.SameCourse ((Session.start snapshot index batch).run (left.map .standard))
      ((Session.start snapshot index batch).run (right.map .standard)) ∧
    Session.SameCourse ((Session.start snapshot index batch).run (left.map .standard))
      ((Session.start snapshot index batch).runUnskipped (right.map .standard)) := by
  have left_over : (Session.start snapshot index batch).batch.drop
      (Session.start snapshot index batch).assignments.length = batch := rfl
  simp only [Session.run, ← Session.placeAllBy_locate]
  constructor
  · apply Session.sameCourse_placeAllBy _ left_over
    intro session workload
    exact Session.toOption_locate_eq same
  · apply Session.sameCourse_placeAllBy _ left_over
    intro session workload
    exact Session.toOption_locateUnskipped_eq same

namespace Sample

/-- The standard rules from the last to the first, and the last once more. -/
def backwards : List StandardRule :=
  [.taintToleration, .interWorkloadAffinity, .nodeAffinity, .resourceFit, .unschedulableExclusion,
    .taintToleration]

/-- A workload with a nameless label to be apart by, and a toleration that compares no key. -/
def twiceMalformed : Workload :=
  { name := "broken"
    tolerations := [{}]
    affinityTerms := [{ zoneTerm .forbidden "db" with topologyKey := "" }] }

def unfinished : Session :=
  Session.start { nodes := zones.nodes } zones.index [database "db-1", twiceMalformed]

/-- Both orders place the database, and each has its own objection to the malformed workload. -/
theorem run_eq_of_same_rules_backwards :
    (∀ rule, rule ∈ StandardRule.all ↔ rule ∈ backwards) ∧
      (unfinished.run .standard).2 = .error (.admission "broken"
        { rule := "InterWorkloadAffinity", status := .error (.affinityTerm .emptyTopologyKey) }) ∧
      (unfinished.run (backwards.map .standard)).2 = .error (.admission "broken"
        { rule := "TaintToleration", status := .error (.toleration .comparisonWithoutKey) }) ∧
      (unfinished.run (backwards.map .standard)).1 = (unfinished.run .standard).1 ∧
      (unfinished.run .standard).1.assignments.length = 1 := by
  have same : ∀ rule, rule ∈ StandardRule.all ↔ rule ∈ backwards := by
    intro rule
    cases rule <;> decide
  have alike := run_eq_of_same_rules same { nodes := zones.nodes } zones.index
    [database "db-1", twiceMalformed]
  exact ⟨same, by rfl, by rfl, alike.1.state_eq, by rfl⟩

end Sample

end Headroom
