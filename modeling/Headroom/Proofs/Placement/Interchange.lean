import Headroom.Proofs.Placement.Growth
import Headroom.Proofs.Placement.Uniform
/-!
# The order in which a plan is carried out

A plan names a node for each of some workloads. When it is carried out, the terms of a newcomer are
checked against what is there, and the terms of what is there against the newcomer. The two checks
are mirror images (`Workload.Bears.symm`), so while no workload requires company a plan passes in
one order exactly if it passes in every other: each workload has to be admitted at the start, and
any two have to bear with each other (`admitsInTurn_iff`).
-/

namespace Headroom

/-- A workload, and the position of the node that is meant for it. -/
structure Allotment where
  workload : Workload
  position : Nat
deriving DecidableEq

variable {view : ClusterView} {allotment first second : Allotment} {plan : List Allotment}
  {workload other : Workload} {node host : Node}

namespace Workload

theorem Bears.symm (bears : workload.Bears node host other) : other.Bears host node workload where
  unopposed := fun term declared forbidden shared =>
    bears.unrepelled term declared forbidden shared.symm
  unrepelled := fun term declared forbidden shared =>
    bears.unopposed term declared forbidden shared.symm

end Workload

namespace ClusterView

/-! ## Carrying out a plan -/

/-- What the rules see once a workload has been placed on the node that is meant for it. -/
def allot (view : ClusterView) (allotment : Allotment) : ClusterView :=
  { view with nodes := view.nodes.modify allotment.position (·.place allotment.workload) }

/-- What the rules see once a whole plan has been carried out. -/
def allotAll (view : ClusterView) (plan : List Allotment) : ClusterView := plan.foldl allot view

/-- The chain gets ready for a workload, and accepts the node that is meant for it. -/
def Admits (view : ClusterView) (chain : Chain) (allotment : Allotment) : Prop :=
  ∃ node prepared, view.nodes[allotment.position]? = some node ∧
    chain.prepare view allotment.workload = .ok prepared ∧
      prepared.judge view allotment.workload node = .ok ()

/-- Each step of a plan passes in the state that the steps before it have left. -/
def AdmitsInTurn (chain : Chain) : ClusterView → List Allotment → Prop
  | _, [] => True
  | view, allotment :: rest =>
      view.Admits chain allotment ∧ AdmitsInTurn chain (view.allot allotment) rest

theorem admits_standard_iff :
    view.Admits .standard allotment ↔ ∃ node, view.nodes[allotment.position]? = some node ∧
      (∀ rule ∈ StandardRule.all, rule.check allotment.workload = .ok ()) ∧
        view.Accepts StandardRule.all allotment.workload node := by
  constructor
  · rintro ⟨node, prepared, stands, ready, accepted⟩
    exact ⟨node, stands, Chain.exists_prepare_eq_ok_iff.mp ⟨prepared, ready⟩,
      (Prepared.judge_eq_ok_iff ready).mp accepted⟩
  · rintro ⟨node, stands, formed, accepted⟩
    obtain ⟨prepared, ready⟩ := Chain.exists_prepare_eq_ok_iff.mpr formed
    exact ⟨node, prepared, stands, ready, (Prepared.judge_eq_ok_iff ready).mpr accepted⟩

theorem allot_eq_place (stands : view.nodes[allotment.position]? = some node) :
    view.allot allotment = view.place allotment.workload allotment.position node := by
  rw [allot, place, List.modify_eq_set_getElem?, stands]
  rfl

theorem getElem?_allot (view : ClusterView) (allotment : Allotment) (position : Nat) :
    (view.allot allotment).nodes[position]? = (view.nodes[position]?).map fun node =>
      if allotment.position = position then node.place allotment.workload else node :=
  List.getElem?_modify _ _ _ _

theorem exists_getElem?_allot {position : Nat} (allotment : Allotment)
    (stands : view.nodes[position]? = some node) :
    ∃ later, (view.allot allotment).nodes[position]? = some later ∧ later.labels = node.labels := by
  rw [getElem?_allot, stands]
  refine ⟨_, rfl, ?_⟩
  split <;> rfl

/-! ## Two steps -/

/-- Two workloads that bear with each other on the nodes that are meant for them. -/
def Reconciles (view : ClusterView) (first second : Allotment) : Prop :=
  ∀ node host, view.nodes[first.position]? = some node → view.nodes[second.position]? = some host →
    first.workload.Bears node host second.workload

theorem Reconciles.symm (reconciles : view.Reconciles first second) :
    view.Reconciles second first :=
  fun host node stands stood => (reconciles node host stood stands).symm

/-- A placement changes no labels, so it does not matter to two other workloads. -/
theorem reconciles_allot_iff :
    (view.allot allotment).Reconciles first second ↔ view.Reconciles first second := by
  constructor
  · intro reconciles node host stands stood
    obtain ⟨node', stands', node_eq⟩ := exists_getElem?_allot allotment stands
    obtain ⟨host', stood', host_eq⟩ := exists_getElem?_allot allotment stood
    exact (reconciles node' host' stands' stood').of_labels_eq node_eq.symm host_eq.symm
  · intro reconciles node' host' stands' stood'
    rw [getElem?_allot, Option.map_eq_some_iff] at stands' stood'
    obtain ⟨node, stands, rfl⟩ := stands'
    obtain ⟨host, stood, rfl⟩ := stood'
    refine (reconciles node host stands stood).of_labels_eq ?_ ?_
    · split <;> rfl
    · split <;> rfl

/-- After a step another one passes if it did before and the two workloads bear with each other. -/
theorem admits_allot_iff (admits : view.Admits .standard first)
    (solitary : ∀ term ∈ second.workload.affinityTerms, term.kind ≠ .required)
    (apart : first.position ≠ second.position) :
    (view.allot first).Admits .standard second ↔
      view.Admits .standard second ∧ view.Reconciles first second := by
  obtain ⟨node, -, stands, -⟩ := admits
  have kept : (view.allot first).nodes[second.position]? = view.nodes[second.position]? := by
    rw [allot_eq_place stands]
    exact getElem?_place_of_ne apart.symm
  rw [admits_standard_iff, admits_standard_iff, kept, allot_eq_place stands]
  simp only [accepts_place_iff solitary stands]
  constructor
  · rintro ⟨host, stood, formed, accepted, bears⟩
    refine ⟨⟨host, stood, formed, accepted⟩, fun node' host' stands' stood' => ?_⟩
    rw [stands, Option.some.injEq] at stands'
    rw [stood, Option.some.injEq] at stood'
    rw [← stands', ← stood']
    exact bears.symm
  · rintro ⟨⟨host, stood, formed, accepted⟩, reconciles⟩
    exact ⟨host, stood, formed, accepted, (reconciles node host stands stood).symm⟩

/-! ## Plans -/

/-- A plan passes step by step if each step would pass first, and any two workloads bear with each
other. Neither depends on the order. -/
theorem admitsInTurn_iff (apart : (plan.map (·.position)).Nodup)
    (solitary : ∀ allotment ∈ plan, ∀ term ∈ allotment.workload.affinityTerms,
      term.kind ≠ .required) :
    view.AdmitsInTurn .standard plan ↔
      (∀ allotment ∈ plan, view.Admits .standard allotment) ∧ plan.Pairwise view.Reconciles := by
  -- by induction on the plan: the first step matters to a later one through their pair alone
  induction plan generalizing view with
  | nil => simp [AdmitsInTurn]
  | cons first rest ih =>
      rw [List.map_cons, List.nodup_cons] at apart
      rw [List.forall_mem_cons] at solitary
      have elsewhere : ∀ second ∈ rest, first.position ≠ second.position := by
        intro second member same
        exact apart.1 (List.mem_map.mpr ⟨second, member, same.symm⟩)
      show view.Admits .standard first ∧ (view.allot first).AdmitsInTurn .standard rest ↔ _
      rw [ih apart.2 solitary.2, List.forall_mem_cons, List.pairwise_cons, and_assoc]
      refine and_congr_right fun admits => ?_
      have later : (∀ second ∈ rest, (view.allot first).Admits .standard second) ↔
          ∀ second ∈ rest, view.Admits .standard second ∧ view.Reconciles first second := by
        refine forall₂_congr fun second member => ?_
        exact admits_allot_iff admits (solitary.2 second member) (elsewhere second member)
      have kept : rest.Pairwise (view.allot first).Reconciles ↔ rest.Pairwise view.Reconciles :=
        List.Pairwise.iff fun _ _ => reconciles_allot_iff
      rw [later, kept]
      constructor
      · rintro ⟨both, pairs⟩
        exact ⟨fun second member => (both second member).1,
          fun second member => (both second member).2, pairs⟩
      · rintro ⟨admitted, reconciled, pairs⟩
        exact ⟨fun second member => ⟨admitted second member, reconciled second member⟩, pairs⟩

/-- Placements on different nodes lead to the same nodes in every order. -/
theorem allotAll_eq_of_perm {other : List Allotment} (same : plan.Perm other)
    (apart : (plan.map (·.position)).Nodup) (view : ClusterView) :
    view.allotAll plan = view.allotAll other := by
  refine same.foldl_eq' (fun first member second member' view => ?_) view
  by_cases here : first.position = second.position
  -- no two steps of the plan share a position, so these are one step
  · rw [List.inj_on_of_nodup_map apart member member' here]
  · simp only [allot, List.modify_modify_ne _ _ _ here]

end ClusterView

/-- **The order of a plan never matters.** Take any plan that has a node of its own for each of some
workloads, none of which requires company. Carried out in one order, every step passes the standard
chain exactly if every step does in any other order, and the nodes are the same in the end. -/
theorem admitsInTurn_iff_of_perm {plan other : List Allotment} (same : plan.Perm other)
    (apart : (plan.map (·.position)).Nodup)
    (solitary : ∀ allotment ∈ plan, ∀ term ∈ allotment.workload.affinityTerms,
      term.kind ≠ .required) (snapshot : Snapshot) (index : TopologyIndex) :
    ((snapshot.view index).AdmitsInTurn .standard plan ↔
        (snapshot.view index).AdmitsInTurn .standard other) ∧
      ((snapshot.view index).allotAll plan).nodes =
        ((snapshot.view index).allotAll other).nodes := by
  have apart' : (other.map (·.position)).Nodup := (same.map _).nodup_iff.mp apart
  have solitary' : ∀ allotment ∈ other, ∀ term ∈ allotment.workload.affinityTerms,
      term.kind ≠ .required := fun allotment member =>
    solitary allotment (same.mem_iff.mpr member)
  constructor
  · rw [ClusterView.admitsInTurn_iff apart solitary, ClusterView.admitsInTurn_iff apart' solitary']
    refine and_congr ?_ ?_
    · exact forall_congr' fun allotment => imp_congr_left same.mem_iff
    · exact same.pairwise_iff ClusterView.Reconciles.symm
  · rw [ClusterView.allotAll_eq_of_perm same apart]

namespace Sample

/-- A database that tolerates its own kind. -/
def tenant : Workload := { database "db-1" with affinityTerms := [] }

/-- One database keeps others out of its zone, the other one stays out of it. -/
def neighbours : List Allotment :=
  [{ workload := rival "db-0", position := 0 }, { workload := tenant, position := 1 }]

def twoZones : Snapshot := { nodes := [dedicated "a" "east", dedicated "b" "west"] }

/-- Whichever of the two comes first, the other one may come too. -/
theorem admitsInTurn_iff_of_perm_neighbours :
    (neighbours.map (·.position)).Nodup ∧
      (∀ allotment ∈ neighbours, ∀ term ∈ allotment.workload.affinityTerms,
        term.kind ≠ .required) ∧
      (twoZones.view zones.index).AdmitsInTurn .standard neighbours ∧
      (twoZones.view zones.index).AdmitsInTurn .standard neighbours.reverse := by
  have apart : (neighbours.map (·.position)).Nodup := by decide
  have solitary : ∀ allotment ∈ neighbours, ∀ term ∈ allotment.workload.affinityTerms,
      term.kind ≠ .required := by decide
  have passes : (twoZones.view zones.index).AdmitsInTurn .standard neighbours :=
    ⟨⟨_, _, rfl, rfl, rfl⟩, ⟨_, _, rfl, rfl, rfl⟩, trivial⟩
  have either_way := (admitsInTurn_iff_of_perm neighbours.reverse_perm.symm apart solitary twoZones
    zones.index).1
  exact ⟨apart, solitary, passes, either_way.mp passes⟩

end Sample

end Headroom
