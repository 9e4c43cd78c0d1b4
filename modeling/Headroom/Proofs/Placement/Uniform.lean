import Headroom.Proofs.Placement.Run
import Headroom.Proofs.Placement.Spread
/-!
# Uniform batches

The workloads of a profile ask for the same, so first-fit needs no luck with them. Each placement
takes one node from those that are eligible, together with the nodes that share its value of the
spread label (`exists_eligible_eq_cons`). A run therefore places as many workloads as any choice of
nodes could (`uniform_first_fit`), in whatever order the nodes are listed.
-/

namespace Headroom

variable {profile : Profile} {view : ClusterView} {workload newcomer : Workload}
  {node other : Node} {session : Session} {position first next : Nat} {rules : List StandardRule}

/-! ## Eligible nodes -/

/-- The first of a list that passes a test, and what is left when it is replaced by an element that
fails and the test is narrowed. -/
theorem filter_append_cons_of_first {α : Type} {passes narrow apart : α → Prop}
    [DecidablePred passes] [DecidablePred narrow] [DecidablePred apart] {before : List α}
    (after : List α) {found replaced : α} (passed : passes found)
    (passedOver : ∀ other ∈ before, ¬ passes other)
    (narrowed : ∀ other, narrow other ↔ passes other ∧ apart other) (failed : ¬ narrow replaced) :
    (before ++ found :: after).filter (passes ·) = found :: after.filter (passes ·) ∧
      (before ++ replaced :: after).filter (narrow ·) =
        (after.filter (passes ·)).filter (apart ·) := by
  have skipped : ∀ other ∈ before, ¬ narrow other := by
    intro other earlier passed
    exact passedOver other earlier ((narrowed other).mp passed).1
  constructor
  · rw [List.filter_append, List.filter_eq_nil_iff.mpr (by simpa using passedOver),
      List.nil_append, List.filter_cons_of_pos (by simpa using passed)]
  · rw [List.filter_append, List.filter_eq_nil_iff.mpr (by simpa using skipped), List.nil_append,
      List.filter_cons_of_neg (by simpa using failed), List.filter_filter]
    refine List.filter_congr fun other _ => ?_
    rw [Bool.eq_iff_iff, Bool.and_eq_true, decide_eq_true_eq, decide_eq_true_eq, decide_eq_true_eq,
      narrowed, and_comm]

/-- The nodes on which a chain admits a workload. -/
def Chain.admitting (chain : Chain) (view : ClusterView) (workload : Workload) : List Node :=
  match chain.prepare view workload with
  | .ok prepared => view.nodes.filter fun node => (prepared.judge view workload node).isOk
  | .error _ => []

instance : Decidable (view.Accepts rules workload node) :=
  inferInstanceAs (Decidable (∀ _ ∈ _, _))

theorem Chain.admitting_eq_filter (formed : ∀ rule ∈ rules, rule.check workload = .ok ()) :
    Chain.admitting (rules.map .standard) view workload =
      view.nodes.filter (view.Accepts rules workload ·) := by
  obtain ⟨prepared, ready⟩ := exists_prepare_eq_ok_iff.mpr formed
  rw [admitting, ready]
  refine List.filter_congr fun node _ => ?_
  rw [Bool.eq_iff_iff, decide_eq_true_eq, ← Prepared.judge_eq_ok_iff ready]
  cases prepared.judge view workload node <;> simp [Except.isOk, Except.toBool]

/-! ## Workloads that repel -/

/-- Neither of two workloads on two nodes has a forbidden term against the other. -/
structure Workload.Bears (workload : Workload) (node host : Node) (other : Workload) : Prop where
  unopposed : ∀ term ∈ workload.affinityTerms, term.kind = .forbidden →
    node.SameDomain term.topologyKey host → term.selector.selects other.labels = false
  unrepelled : ∀ term ∈ other.affinityTerms, term.kind = .forbidden →
    node.SameDomain term.topologyKey host → term.selector.selects workload.labels = false

theorem Workload.Bears.of_labels_eq {other : Workload} {node host node' host' : Node}
    (bears : workload.Bears node host other) (node_eq : node'.labels = node.labels)
    (host_eq : host'.labels = host.labels) : workload.Bears node' host' other where
  unopposed := fun term declared forbidden shared =>
    bears.unopposed term declared forbidden (shared.of_labels_eq node_eq.symm host_eq.symm)
  unrepelled := fun term declared forbidden shared =>
    bears.unrepelled term declared forbidden (shared.of_labels_eq node_eq.symm host_eq.symm)

namespace ClusterView

/-- A workload that requires no company is welcome where it bears with all that is there. -/
theorem welcomes_iff_bears (solitary : ∀ term ∈ workload.affinityTerms, term.kind ≠ .required) :
    view.Welcomes workload node ↔
      ∀ host other, view.Hosts host other → workload.Bears node host other := by
  constructor
  · intro welcome host other hosts
    refine ⟨?_, welcome.unrepelled host other hosts⟩
    intro term declared forbidden
    exact welcome.unopposed term declared forbidden host other hosts
  · intro bears
    refine ⟨?_, ?_, ?_⟩
    · intro term declared required
      exact absurd required (solitary term declared)
    · intro term declared forbidden host other hosts
      exact (bears host other hosts).unopposed term declared forbidden
    · intro host other hosts
      exact (bears host other hosts).unrepelled

/-- After a placement it must bear with the newcomer too. -/
theorem welcomes_place_iff (solitary : ∀ term ∈ workload.affinityTerms, term.kind ≠ .required)
    (stands : view.nodes[position]? = some node) :
    (view.place newcomer position node).Welcomes workload other ↔
      view.Welcomes workload other ∧ workload.Bears other node newcomer := by
  rw [welcomes_iff_bears solitary, welcomes_iff_bears solitary]
  refine forall_hosts_place_iff stands fun hosted => ?_
  constructor
  · rintro ⟨unopposed, unrepelled⟩
    exact ⟨unopposed, unrepelled⟩
  · rintro ⟨unopposed, unrepelled⟩
    exact ⟨unopposed, unrepelled⟩

/-- So a placement elsewhere shuts out such a workload only by what the newcomer is. -/
theorem accepts_place_iff (solitary : ∀ term ∈ workload.affinityTerms, term.kind ≠ .required)
    (stands : view.nodes[position]? = some node) :
    (view.place newcomer position node).Accepts StandardRule.all workload other ↔
      view.Accepts StandardRule.all workload other ∧ workload.Bears other node newcomer := by
  have member : .interWorkloadAffinity ∈ StandardRule.all := by decide
  simp only [accepts_iff, member, true_imp_iff]
  rw [welcomes_place_iff solitary stands, and_assoc]

end ClusterView

/-! ## The workloads of a profile -/

namespace Profile

theorem mem_affinityTerms_iff {term : AffinityTerm} :
    term ∈ (profile.workload first).affinityTerms ↔
      ∃ key ∈ profile.spreadBy, spreadTerm key = term := by
  simp [workload]

theorem solitary_workload :
    ∀ term ∈ (profile.workload first).affinityTerms, term.kind ≠ .required := by
  intro term declared
  obtain ⟨key, -, rfl⟩ := mem_affinityTerms_iff.mp declared
  simp [spreadTerm]

/-- The spread term of a profile is one against its own workloads. -/
theorem selects_spreadTerm (key : String) :
    (spreadTerm key).selector.selects (profile.workload first).labels = true := by
  rfl

theorem bears_workload_iff :
    (profile.workload first).Bears other node (profile.workload next) ↔
      node.Apart profile.spreadBy other := by
  constructor
  · rintro ⟨unopposed, -⟩ key spread shared
    have unselected := unopposed (spreadTerm key) (mem_affinityTerms_iff.mpr ⟨key, spread, rfl⟩) rfl
      shared.symm
    rw [selects_spreadTerm] at unselected
    contradiction
  · intro apart
    refine ⟨fun term declared _ shared => ?_, fun term declared _ shared => ?_⟩
    · obtain ⟨key, spread, rfl⟩ := mem_affinityTerms_iff.mp declared
      exact absurd shared.symm (apart key spread)
    · obtain ⟨key, spread, rfl⟩ := mem_affinityTerms_iff.mp declared
      exact absurd shared.symm (apart key spread)

/-- The workloads of a profile differ in their names, which no rule looks at. -/
theorem check_workload (rule : StandardRule) :
    rule.check (profile.workload next) = rule.check (profile.workload 0) := by
  cases rule <;> rfl

theorem accepts_workload_iff :
    view.Accepts rules (profile.workload next) node ↔
      view.Accepts rules (profile.workload 0) node := by
  refine forall₂_congr fun rule _ => ?_
  cases rule <;> rfl

/-- A placement shuts out the nodes that share its value of the spread label. -/
theorem accepts_place_iff (stands : view.nodes[position]? = some node) :
    (view.place (profile.workload next) position node).Accepts StandardRule.all
        (profile.workload first) other ↔
      view.Accepts StandardRule.all (profile.workload first) other ∧
        node.Apart profile.spreadBy other := by
  rw [ClusterView.accepts_place_iff solitary_workload stands, bears_workload_iff]

/-- The nodes of a view that are eligible for the workloads of a profile. -/
def eligible (profile : Profile) (view : ClusterView) : List Node :=
  Chain.admitting .standard view (profile.workload 0)

theorem eligible_eq_filter (formed : (profile.workload 0).WellFormed) :
    profile.eligible view =
      view.nodes.filter (view.Accepts StandardRule.all (profile.workload 0) ·) :=
  Chain.admitting_eq_filter fun rule _ => formed rule

theorem not_accepts_place (workload : Workload) :
    ¬ view.Accepts StandardRule.all workload (node.place newcomer) := by
  intro accepted
  have closure := (ClusterView.accepts_iff.mp accepted).1.closure (by decide)
  simp [Node.closure?] at closure

/-- How many workloads of a profile can be placed: as many as there are eligible nodes that can be
chosen apart. -/
def capacity (profile : Profile) (view : ClusterView) : Nat :=
  spreadCapacity profile.spreadBy (profile.eligible view)

/-- A placement takes the first of the eligible nodes, and leaves those that are apart from it. -/
theorem exists_eligible_eq_cons (formed : (profile.workload 0).WellFormed)
    (fit : session.FirstFit StandardRule.all (profile.workload next) position node) :
    ∃ rest, profile.eligible session.view = node :: rest ∧
      profile.eligible (session.place turn (profile.workload next) position node).view =
        rest.filter (node.Apart profile.spreadBy ·) := by
  have stands := fit.getElem?_eq
  obtain ⟨before, after, split, rfl, accepted, passedOver⟩ := fit
  simp only [accepts_workload_iff] at accepted passedOver
  have listed : session.view.nodes = before ++ node :: after := split
  have moved : (session.view.place (profile.workload next) before.length node).nodes =
      before ++ node.place (profile.workload next) :: after := by
    simp [ClusterView.place, listed]
  obtain ⟨here, there⟩ := filter_append_cons_of_first after accepted passedOver
    (fun other => accepts_place_iff stands) (not_accepts_place (profile.workload 0))
  refine ⟨after.filter (session.view.Accepts StandardRule.all (profile.workload 0) ·), ?_, ?_⟩
  · rw [eligible_eq_filter formed, listed, here]
  · rw [Session.view_place, eligible_eq_filter formed, moved, there]

end Profile

/-! ## The run -/

namespace Session

theorem capacity_eq_zero (formed : (profile.workload 0).WellFormed)
    (found : session.locate .standard (profile.workload next) = .ok none) :
    profile.capacity session.view = 0 := by
  have nobody := not_accepts_of_locate found
  simp only [Profile.accepts_workload_iff] at nobody
  rw [Profile.capacity, Profile.eligible_eq_filter formed,
    List.filter_eq_nil_iff.mpr (by simpa using nobody)]
  cases profile.spreadBy <;> rfl

/-- A run over workloads of a profile places as many as there is room for, and reports the first
that is left over, provided that turns have been counted as workloads were placed. -/
theorem exists_placeAll_uniform (formed : (profile.workload 0).WellFormed) (indices : List Nat)
    (session : Session) :
    ∃ final, placeAll .standard session.assignments.length (indices.map profile.workload) session =
        (final, .ok ()) ∧
      final.batch = session.batch ∧
      final.assignments.length =
        session.assignments.length + min indices.length (profile.capacity session.view) ∧
      final.firstUnplaced =
        if indices.length ≤ profile.capacity session.view then session.firstUnplaced
        else some final.assignments.length := by
  induction indices generalizing session with
  | nil => exact ⟨session, rfl, rfl, by simp, by simp⟩
  | cons next rest ih =>
      have checked : ∀ rule ∈ StandardRule.all, rule.check (profile.workload next) = .ok () :=
        fun rule _ => (Profile.check_workload rule).trans (formed rule)
      obtain ⟨place, found⟩ : ∃ place,
          session.locate .standard (profile.workload next) = .ok place :=
        exists_locate_eq_ok checked
      cases place with
      | none =>
          -- nobody is eligible any more, so there was no room left
          have full : profile.capacity session.view = 0 := capacity_eq_zero formed found
          refine ⟨session.giveUp session.assignments.length, ?_, rfl, ?_, ?_⟩
          · rw [List.map_cons, placeAll, found]
          · rw [full, Nat.min_zero]
            rfl
          · rw [full, if_neg (by simp)]
            rfl
      | some spot =>
          obtain ⟨position, node⟩ := spot
          have fit := firstFit_of_locate found
          obtain ⟨others, here, there⟩ := Profile.exists_eligible_eq_cons formed fit
          have room : profile.capacity session.view = profile.capacity (session.place
              session.assignments.length (profile.workload next) position node).view + 1 := by
            rw [Profile.capacity, here, spreadCapacity_cons, ← there, Profile.capacity]
          obtain ⟨final, run, batch, placed, unplaced⟩ :=
            ih (session.place session.assignments.length (profile.workload next) position node)
          have grown : (session.place session.assignments.length (profile.workload next) position
              node).assignments.length = session.assignments.length + 1 := List.length_append
          rw [grown] at run
          refine ⟨final, ?_, batch, ?_, ?_⟩
          · rw [List.map_cons, placeAll, found]
            exact run
          · rw [placed, grown, room, List.length_cons]
            omega
          · rw [unplaced, room, List.length_cons]
            simp only [Nat.add_le_add_iff_right]
            rfl

end Session

/-- What a report on a uniform batch says. -/
theorem exists_simulate_eq_ok (formed : (profile.workload 0).WellFormed) (snapshot : Snapshot)
    (index : TopologyIndex) (count : Nat) :
    ∃ report, simulate snapshot index (profile.workloads count) = .ok report ∧
      report.assignments.length = min count (profile.capacity (snapshot.view index)) ∧
      report.verdict = if count ≤ profile.capacity (snapshot.view index) then .feasible
        else .infeasible count (profile.capacity (snapshot.view index)) := by
  obtain ⟨final, run, batch, placed, unplaced⟩ := Session.exists_placeAll_uniform formed
    (List.range count) (Session.start snapshot index (profile.workloads count))
  have length_eq : final.assignments.length =
      min count (profile.capacity (snapshot.view index)) := by
    rw [placed, List.length_range]
    exact Nat.zero_add _
  have simulated : simulate snapshot index (profile.workloads count) = .ok final.report := by
    have run' : (Session.start snapshot index (profile.workloads count)).run .standard =
        (final, .ok ()) := run
    rw [simulate, simulateWith, run']
  refine ⟨final.report, simulated, length_eq, ?_⟩
  have asked : final.batch.length = count := by
    rw [batch]
    simp [Session.start, Profile.workloads]
  rw [List.length_range] at unplaced
  show final.verdict = if count ≤ profile.capacity (snapshot.view index) then _ else _
  by_cases enough : count ≤ profile.capacity (snapshot.view index)
  · have none_left : final.firstUnplaced = none := unplaced.trans (if_pos enough)
    rw [if_pos enough, Session.verdict, none_left]
  · have left_over : final.firstUnplaced = some final.assignments.length :=
      unplaced.trans (if_neg enough)
    rw [if_neg enough, Session.verdict, left_over, asked, length_eq,
      Nat.min_eq_right (Nat.le_of_not_le enough)]

/-! ## The order of the nodes -/

/-- A workload is as welcome when the nodes are listed in another order. -/
theorem ClusterView.Welcomes.of_perm {left right : Snapshot} {index : TopologyIndex}
    (welcome : (left.view index).Welcomes workload node) (same : left.nodes.Perm right.nodes) :
    (right.view index).Welcomes workload node := by
  have hosts : ∀ host other, (right.view index).Hosts host other ↔
      (left.view index).Hosts host other := by
    intro host other
    exact and_congr_left fun _ => same.mem_iff.symm
  refine ⟨?_, ?_, ?_⟩
  · simpa only [hosts] using welcome.attracted
  · simpa only [hosts] using welcome.unopposed
  · simpa only [hosts] using welcome.unrepelled

theorem accepts_view_iff_of_perm {left right : Snapshot} {index : TopologyIndex}
    (same : left.nodes.Perm right.nodes) :
    (left.view index).Accepts rules workload node ↔
      (right.view index).Accepts rules workload node := by
  rw [ClusterView.accepts_iff, ClusterView.accepts_iff]
  refine and_congr_right fun _ => forall_congr' fun _ => ?_
  exact ⟨fun welcome => welcome.of_perm same, fun welcome => welcome.of_perm same.symm⟩

theorem Profile.capacity_view_eq_of_perm (formed : (profile.workload 0).WellFormed)
    {left right : Snapshot} (index : TopologyIndex) (same : left.nodes.Perm right.nodes) :
    profile.capacity (left.view index) = profile.capacity (right.view index) := by
  have agree : left.nodes.filter
        ((left.view index).Accepts StandardRule.all (profile.workload 0) ·) =
      left.nodes.filter ((right.view index).Accepts StandardRule.all (profile.workload 0) ·) := by
    refine List.filter_congr fun node _ => ?_
    rw [decide_eq_decide]
    exact accepts_view_iff_of_perm same
  rw [capacity, capacity, eligible_eq_filter formed, eligible_eq_filter formed]
  refine (congrArg (spreadCapacity profile.spreadBy) agree).trans ?_
  exact spreadCapacity_perm (same.filter _)

/-- **First-fit is optimal for uniform batches.** A run over well-formed workloads of a profile
places as many as there is capacity for on the nodes that are eligible at the start. So the verdict
is feasible exactly if that many nodes can be chosen apart at all, and it is the same for every
order of the nodes. -/
theorem uniform_first_fit (formed : (profile.workload 0).WellFormed) (snapshot : Snapshot)
    (index : TopologyIndex) (count : Nat) :
    ∃ report, simulate snapshot index (profile.workloads count) = .ok report ∧
      report.assignments.length =
        min count (spreadCapacity profile.spreadBy (profile.eligible (snapshot.view index))) ∧
      (report.verdict = .feasible ↔
        count ≤ spreadCapacity profile.spreadBy (profile.eligible (snapshot.view index))) ∧
      (report.verdict = .feasible ↔ ∃ choice : List Node,
        choice.Sublist (profile.eligible (snapshot.view index)) ∧
          choice.Pairwise (Node.Apart profile.spreadBy) ∧ choice.length = count) ∧
      ∀ other : Snapshot, other.nodes.Perm snapshot.nodes →
        ∃ again, simulate other index (profile.workloads count) = .ok again ∧
          again.verdict = report.verdict := by
  obtain ⟨report, simulated, placed, verdict⟩ := exists_simulate_eq_ok formed snapshot index count
  have feasible_iff : report.verdict = .feasible ↔
      count ≤ spreadCapacity profile.spreadBy (profile.eligible (snapshot.view index)) := by
    rw [verdict, ← Profile.capacity]
    split <;> simp [*]
  refine ⟨report, simulated, placed, feasible_iff, ?_, ?_⟩
  · rw [feasible_iff, exists_choice_iff]
  · intro other same
    obtain ⟨again, repeated, -, same_verdict⟩ := exists_simulate_eq_ok formed other index count
    refine ⟨again, repeated, ?_⟩
    rw [verdict, same_verdict, Profile.capacity_view_eq_of_perm formed index same]

namespace Sample

/-- Small workloads, one for each zone. -/
def onePerZone : Profile :=
  { cpuMillis := { val := 100 }, memoryBytes := { val := 64 }, spreadBy := some "zone" }

/-- An empty node, in a zone or in none. -/
def roomy (name : String) (zone : Option String) : Node :=
  { name
    labels := .ofList (zone.toList.map fun value => ("zone", value))
    allocatable := .cpuMemory { val := 800 } { val := 512 } }

def fourNodes : Snapshot :=
  { nodes := [roomy "a" "east", roomy "b" "east", roomy "c" "west", roomy "d" none] }

/-- A workload of the same profile already runs in one of the zones. -/
def taken : TopologyIndex := ({} : TopologyIndex).insert "c" (onePerZone.workload 0)

/-- Two of three workloads are placed, one in the free zone and one outside of all zones. -/
theorem uniform_first_fit_fourNodes :
    (onePerZone.workload 0).WellFormed ∧
    (onePerZone.eligible (fourNodes.view taken)).map (·.name) = ["a", "b", "d"] ∧
    ∃ report, simulate fourNodes taken (onePerZone.workloads 3) = .ok report ∧
      report.assignments.length = 2 ∧ report.verdict ≠ .feasible ∧
      ¬ ∃ choice : List Node, choice.Sublist (onePerZone.eligible (fourNodes.view taken)) ∧
        choice.Pairwise (Node.Apart (some "zone")) ∧ choice.length = 3 := by
  have formed : (onePerZone.workload 0).WellFormed := fun rule => by cases rule <;> rfl
  have two : spreadCapacity (some "zone") (onePerZone.eligible (fourNodes.view taken)) = 2 := by
    decide
  obtain ⟨report, simulated, placed, feasible_iff, choice_iff, -⟩ :=
    uniform_first_fit formed fourNodes taken 3
  have short : report.verdict ≠ .feasible := by
    intro feasible
    have enough := feasible_iff.mp feasible
    rw [show onePerZone.spreadBy = some "zone" from rfl, two] at enough
    contradiction
  refine ⟨formed, by rfl, report, simulated, ?_, short, fun choice => short (choice_iff.mpr choice)⟩
  rw [placed, show onePerZone.spreadBy = some "zone" from rfl, two]
  rfl

end Sample

end Headroom
