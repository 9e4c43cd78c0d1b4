import Headroom.Proofs.Admission.Chain
/-!
# Admissible nodes

What the standard chain asks, said without it. `Node.Suits` holds the seven conditions on a node
and a workload alone, `ClusterView.Welcomes` the three on the workloads around them. Every rule has
something against a node exactly when its part of this is broken, so a chain that is ready accepts
the nodes for which all ten hold (`judge_standard_iff`), whichever rules were skipped.
-/

namespace Headroom

variable {view : ClusterView} {workload : Workload} {node : Node} {prepared : Prepared}

theorem Labels.containsAll_iff {labels wanted : Labels} :
    labels.containsAll wanted = true ↔
      ∀ key value, wanted.get? key = some value → labels.get? key = some value := by
  simp only [Labels.containsAll, List.all_eq_true, decide_eq_true_eq, Prod.forall,
    Dict.mem_entries_iff]

theorem NodeSelectorTerm.selects_iff {term : NodeSelectorTerm} {labels : Labels} :
    term.selects labels = true ↔ term.requirements ≠ [] ∧
      ∀ requirement ∈ term.requirements, requirement.holds labels = true := by
  simp [NodeSelectorTerm.selects]

/-! ## The node and the workload -/

namespace Node

/-- What a workload needs of a node, whatever else is in the cluster. -/
structure Suits (node : Node) (workload : Workload) : Prop where
  /-- No proposed workload has been placed on the node. -/
  unused : node.consumed = false
  opened : node.cordoned = true → workload.tolerates cordonTaint = true
  podFits : ∀ limit, node.allocatable.get? .pods = some limit →
    (node.podCount : Int) + 1 ≤ limit.val
  requestsFit : ∀ resource requested, workload.requests.get? resource = some requested →
    resource ≠ .pods → requested.val ≠ 0 → requested.val ≤ (node.remaining resource).val
  selected : ∀ key value, workload.nodeSelector.get? key = some value →
    node.labels.get? key = some value
  /-- Some alternative that asks for anything is met, if there are alternatives. -/
  eligible : ∀ terms, workload.nodeAffinity = some terms → ∃ term ∈ terms,
    term.requirements ≠ [] ∧ ∀ requirement ∈ term.requirements, requirement.holds node.labels = true
  tolerated : ∀ taint ∈ node.taints, taint.effect ≠ .preferNoSchedule →
    workload.tolerates taint = true

theorem closure?_eq_none_iff :
    node.closure? workload = none ↔
      node.consumed = false ∧ (node.cordoned = true → workload.tolerates cordonTaint = true) := by
  unfold closure?
  cases node.consumed <;> cases node.cordoned <;> simp

/-- Where pods can be counted up to the limit. The count stops at the largest amount, so a node with
that very limit must have fewer pods, as every node has whose pods were listed one by one. -/
def Counted (node : Node) : Prop :=
  node.allocatable.get? .pods = some .greatest → node.podCount < 9223372036854775807

instance : Decidable node.Counted :=
  inferInstanceAs (Decidable (_ → _))

theorem clamp_succ_le_iff {count : Nat} {limit : Amount}
    (counted : limit = .greatest → count < 9223372036854775807) :
    (Amount.clamp (count + 1)).val ≤ limit.val ↔ (count : Int) + 1 ≤ limit.val := by
  have highest := limit.le_greatest
  have largest : limit.val = 9223372036854775807 → count < 9223372036854775807 :=
    fun same => counted (Amount.ext same)
  simp only [Amount.clamp]
  omega

theorem isFull_eq_false_iff (counted : node.Counted) :
    node.isFull = false ↔ ∀ limit, node.allocatable.get? .pods = some limit →
      (node.podCount : Int) + 1 ≤ limit.val := by
  simp only [isFull, Option.any_eq_false, decide_eq_false_iff_not, Int.not_lt]
  refine forall₂_congr fun limit declared => clamp_succ_le_iff fun largest => ?_
  exact counted (largest ▸ declared)

theorem lacks_eq_false_iff {resource : ResourceName} {requested : Amount} :
    node.lacks resource requested = false ↔ resource ≠ .pods → requested.val ≠ 0 →
      requested.val ≤ (node.remaining resource).val := by
  simp only [lacks, Bool.and_eq_false_imp, Bool.and_eq_true, decide_eq_true_eq,
    decide_eq_false_iff_not, Int.not_lt, and_imp]
  exact ⟨fun fits counted asked => fits asked counted,
    fun fits asked counted => fits counted asked⟩

theorem shortage?_eq_none_iff :
    node.shortage? workload = none ↔ node.isFull = false ∧
      ∀ resource requested, workload.requests.get? resource = some requested →
        resource ≠ .pods → requested.val ≠ 0 → requested.val ≤ (node.remaining resource).val := by
  unfold shortage?
  cases node.isFull with
  | true => simp
  | false =>
      simp only [Bool.false_eq_true, if_false, Option.map_eq_none_iff, List.find?_eq_none,
        Prod.forall, Dict.mem_entries_iff, Bool.not_eq_true, lacks_eq_false_iff, true_and]

theorem mismatch?_eq_none_iff :
    node.mismatch? workload = none ↔
      (∀ key value, workload.nodeSelector.get? key = some value →
        node.labels.get? key = some value) ∧
      ∀ terms, workload.nodeAffinity = some terms → ∃ term ∈ terms, term.requirements ≠ [] ∧
        ∀ requirement ∈ term.requirements, requirement.holds node.labels = true := by
  rw [← Labels.containsAll_iff]
  unfold mismatch?
  cases node.labels.containsAll workload.nodeSelector with
  | false => simp
  | true =>
      cases workload.nodeAffinity with
      | none => simp
      | some terms => simp [NodeSelectorTerm.selects_iff]

theorem untolerated?_eq_none_iff :
    node.untolerated? workload = none ↔ ∀ taint ∈ node.taints, taint.effect ≠ .preferNoSchedule →
      workload.tolerates taint = true := by
  simp only [untolerated?, Option.map_eq_none_iff, List.find?_eq_none]
  refine forall₂_congr fun taint _ => ?_
  cases effect : taint.effect <;> simp [TaintEffect.isBlocking]

end Node

/-! ## The workloads around -/

/-- Two nodes that carry a label with the same value. -/
def Node.SameDomain (key : String) (left right : Node) : Prop :=
  (left.labels.get? key).isSome ∧ left.labels.get? key = right.labels.get? key

theorem Node.SameDomain.symm {key : String} {left right : Node} (same : SameDomain key left right) :
    SameDomain key right left :=
  ⟨same.2 ▸ same.1, same.2.symm⟩

theorem Node.SameDomain.of_labels_eq {key : String} {left right left' right' : Node}
    (same : SameDomain key left right) (left_eq : left'.labels = left.labels)
    (right_eq : right'.labels = right.labels) : SameDomain key left' right' := by
  unfold SameDomain
  rw [left_eq, right_eq]
  exact same

theorem Node.sameDomain_iff_of_get?_eq_some {key value : String} {left right : Node}
    (carried : left.labels.get? key = some value) :
    SameDomain key left right ↔ right.labels.get? key = some value := by
  simp [SameDomain, carried, eq_comm]

namespace ClusterView

/-- A listed node on which a workload runs, or on which it has been placed. -/
def Hosts (view : ClusterView) (host : Node) (other : Workload) : Prop :=
  host ∈ view.nodes ∧ (other ∈ view.index.workloadsOn host.name ∨ other ∈ host.placed)

theorem hosts_iff {host : Node} {other : Workload} :
    view.Hosts host other ↔ host ∈ view.nodes ∧ other ∈ view.hosted host := by
  simp [Hosts, hosted]

/-- What a workload and the workloads around a node want of each other. -/
structure Welcomes (view : ClusterView) (workload : Workload) (node : Node) : Prop where
  /-- A required term is met in the domain of the node, or the workload opens a group. -/
  attracted : ∀ term ∈ workload.affinityTerms, term.kind = .required →
    (∃ value, node.labels.get? term.topologyKey = some value) ∧
      ((∃ host other, view.Hosts host other ∧ node.SameDomain term.topologyKey host ∧
          term.selector.selects other.labels = true) ∨
        ((∀ host other, view.Hosts host other → term.selector.selects other.labels = false) ∧
          term.selector.selects workload.labels = true))
  unopposed : ∀ term ∈ workload.affinityTerms, term.kind = .forbidden →
    ∀ host other, view.Hosts host other → node.SameDomain term.topologyKey host →
      term.selector.selects other.labels = false
  /-- No workload that is there has a forbidden term against the newcomer. -/
  unrepelled : ∀ host other, view.Hosts host other →
    ∀ term ∈ other.affinityTerms, term.kind = .forbidden → node.SameDomain term.topologyKey host →
      term.selector.selects workload.labels = false

theorem attracts_iff {selector : LabelSelector} {key value : String}
    (carried : node.labels.get? key = some value) :
    view.attracts selector key value = true ↔ ∃ host other, view.Hosts host other ∧
      node.SameDomain key host ∧ selector.selects other.labels = true := by
  simp only [attracts, hostedIn, domain, List.any_eq_true, List.mem_flatMap, List.mem_filter,
    decide_eq_true_eq, hosts_iff, Node.sameDomain_iff_of_get?_eq_some carried]
  constructor
  · rintro ⟨other, ⟨host, ⟨listed, shared⟩, hosted⟩, selected⟩
    exact ⟨host, other, ⟨listed, hosted⟩, shared, selected⟩
  · rintro ⟨host, other, ⟨listed, hosted⟩, shared, selected⟩
    exact ⟨other, ⟨host, ⟨listed, shared⟩, hosted⟩, selected⟩

theorem attracts_eq_false_iff {selector : LabelSelector} {key value : String}
    (carried : node.labels.get? key = some value) :
    view.attracts selector key value = false ↔ ∀ host other, view.Hosts host other →
      node.SameDomain key host → selector.selects other.labels = false := by
  rw [← Bool.not_eq_true, attracts_iff carried]
  simp only [not_exists, not_and, Bool.not_eq_true]

theorem mayOpen_iff {selector : LabelSelector} :
    view.mayOpen selector workload = true ↔
      (∀ host other, view.Hosts host other → selector.selects other.labels = false) ∧
        selector.selects workload.labels = true := by
  simp only [mayOpen, allHosted, Bool.and_eq_true, Bool.not_eq_true', List.any_eq_false,
    List.mem_flatMap, Bool.not_eq_true, hosts_iff]
  refine and_congr_left fun _ => ?_
  constructor
  · rintro unselected host other ⟨listed, hosted⟩
    exact unselected other ⟨host, listed, hosted⟩
  · rintro unselected other ⟨host, listed, hosted⟩
    exact unselected host other ⟨listed, hosted⟩

theorem unmet?_eq_none_iff {term : AffinityTerm} :
    view.unmet? workload term node = none ↔
      (∃ value, node.labels.get? term.topologyKey = some value) ∧
        ((∃ host other, view.Hosts host other ∧ node.SameDomain term.topologyKey host ∧
            term.selector.selects other.labels = true) ∨
          ((∀ host other, view.Hosts host other → term.selector.selects other.labels = false) ∧
            term.selector.selects workload.labels = true)) := by
  unfold unmet?
  cases carried : node.labels.get? term.topologyKey with
  | none => simp
  | some value =>
      rw [← attracts_iff carried, ← mayOpen_iff]
      show (if (view.attracts term.selector term.topologyKey value ||
        view.mayOpen term.selector workload) = true then none else some Reason.affinity) = none ↔ _
      cases view.attracts term.selector term.topologyKey value <;> simp

theorem conflict?_eq_none_iff {term : AffinityTerm} :
    view.conflict? term node = none ↔
      ∀ host other, view.Hosts host other → node.SameDomain term.topologyKey host →
        term.selector.selects other.labels = false := by
  unfold conflict?
  cases carried : node.labels.get? term.topologyKey with
  | none => simp [Node.SameDomain, carried]
  | some value =>
      rw [← attracts_eq_false_iff carried]
      simp

theorem repels_eq_false_iff {host : Node} {term : AffinityTerm} :
    repels host node workload term = false ↔
      (node.SameDomain term.topologyKey host → term.selector.selects workload.labels = false) := by
  simp only [repels, Bool.and_eq_false_imp, Bool.and_eq_true, decide_eq_true_eq, Node.SameDomain]

theorem isRepelled_eq_false_iff :
    view.isRepelled workload node = false ↔ ∀ host other, view.Hosts host other →
      ∀ term ∈ other.affinityTerms, term.kind = .forbidden → node.SameDomain term.topologyKey host →
        term.selector.selects workload.labels = false := by
  simp only [isRepelled, List.any_eq_false, Bool.not_eq_true, hosts_iff, Workload.forbiddenTerms,
    List.mem_filter, decide_eq_true_eq, repels_eq_false_iff, and_imp]
  constructor
  · intro calm host other listed hosted
    exact calm host listed other hosted
  · intro calm host listed other hosted
    exact calm host other listed hosted

/-- The rule between workloads has nothing against the nodes where all terms are kept. -/
theorem unsociable?_eq_none_iff :
    view.unsociable? workload.affinityTerms workload node = none ↔ view.Welcomes workload node := by
  simp only [unsociable?, Option.or_eq_none_iff, List.findSome?_eq_none_iff, ite_eq_right_iff,
    reduceCtorEq, imp_false, Bool.not_eq_true, isRepelled_eq_false_iff]
  constructor
  · rintro ⟨terms, unrepelled⟩
    refine ⟨fun term declared required => ?_, fun term declared forbidden => ?_, unrepelled⟩
    · have met := terms term declared
      rw [obstacle?, required] at met
      exact unmet?_eq_none_iff.mp met
    · have clear := terms term declared
      rw [obstacle?, forbidden] at clear
      exact conflict?_eq_none_iff.mp clear
  · intro welcome
    refine ⟨fun term declared => ?_, welcome.unrepelled⟩
    unfold obstacle?
    cases kind : term.kind with
    | required => exact unmet?_eq_none_iff.mpr (welcome.attracted term declared kind)
    | forbidden => exact conflict?_eq_none_iff.mpr (welcome.unopposed term declared kind)

end ClusterView

/-! ## Chains -/

/-- No rule of a list that looks at the node alone has anything against it. -/
structure Node.Passes (rules : List StandardRule) (node : Node) (workload : Workload) : Prop where
  closure : .unschedulableExclusion ∈ rules → node.closure? workload = none
  shortage : .resourceFit ∈ rules → node.shortage? workload = none
  mismatch : .nodeAffinity ∈ rules → node.mismatch? workload = none
  untolerated : .taintToleration ∈ rules → node.untolerated? workload = none

theorem ClusterView.accepts_iff {rules : List StandardRule} :
    view.Accepts rules workload node ↔ node.Passes rules workload ∧
      (.interWorkloadAffinity ∈ rules → view.Welcomes workload node) := by
  simp only [← unsociable?_eq_none_iff]
  constructor
  · intro accepted
    exact ⟨⟨accepted _, accepted _, accepted _, accepted _⟩, accepted _⟩
  · rintro ⟨⟨closure, shortage, mismatch, untolerated⟩, sociable⟩ rule member
    cases rule with
    | unschedulableExclusion => exact closure member
    | resourceFit => exact shortage member
    | nodeAffinity => exact mismatch member
    | interWorkloadAffinity => exact sociable member
    | taintToleration => exact untolerated member

theorem Node.passes_all_iff_suits (counted : node.Counted) :
    node.Passes StandardRule.all workload ↔ node.Suits workload := by
  constructor
  · rintro ⟨closure, shortage, mismatch, untolerated⟩
    obtain ⟨unused, opened⟩ := closure?_eq_none_iff.mp (closure (by decide))
    obtain ⟨room, requestsFit⟩ := shortage?_eq_none_iff.mp (shortage (by decide))
    obtain ⟨selected, eligible⟩ := mismatch?_eq_none_iff.mp (mismatch (by decide))
    exact ⟨unused, opened, (isFull_eq_false_iff counted).mp room, requestsFit, selected, eligible,
      untolerated?_eq_none_iff.mp (untolerated (by decide))⟩
  · rintro ⟨unused, opened, podFits, requestsFit, selected, eligible, tolerated⟩
    have room := (isFull_eq_false_iff counted).mpr podFits
    exact ⟨fun _ => closure?_eq_none_iff.mpr ⟨unused, opened⟩,
      fun _ => shortage?_eq_none_iff.mpr ⟨room, requestsFit⟩,
      fun _ => mismatch?_eq_none_iff.mpr ⟨selected, eligible⟩,
      fun _ => untolerated?_eq_none_iff.mpr tolerated⟩

/-- **What the standard chain asks.** Once it is ready for a workload, the standard chain accepts
just the nodes that suit the workload and where the workload is welcome, and it never ends the
search over the nodes with an error. -/
theorem judge_standard_iff (ready : Chain.prepare .standard view workload = .ok prepared)
    (counted : node.Counted) :
    (prepared.judge view workload node = .ok () ↔
      node.Suits workload ∧ view.Welcomes workload node) ∧
    ∀ rejection, prepared.judge view workload node = .error rejection →
      rejection.status.isError = false := by
  refine ⟨?_, fun rejection objects => Prepared.judge_isError_eq_false ready objects⟩
  rw [Chain.standard] at ready
  rw [Prepared.judge_eq_ok_iff ready, ClusterView.accepts_iff, Node.passes_all_iff_suits counted]
  simp [StandardRule.all]

namespace Sample

/-- A demand for, or against, the workloads of an application in the zone of a node. -/
def zoneTerm (kind : AffinityKind) (app : String) : AffinityTerm :=
  { selector := .ofLabel "app" app, topologyKey := "zone", kind }

/-- A database, which keeps away from other databases and stays near a cache. -/
def database (name : String) : Workload :=
  { name
    labels := (Dict.empty : Labels).insert "app" "db"
    requests := .cpuMemory { val := 500 } { val := 1024 }
    tolerations := [.ofKey "dedicated"]
    affinityTerms := [zoneTerm .required "cache", zoneTerm .forbidden "db"] }

def cache : Workload := { name := "cache", labels := (Dict.empty : Labels).insert "app" "cache" }

/-- A dedicated node for one pod more than runs on it. -/
def dedicated (name zone : String) : Node :=
  { name
    labels := (Dict.empty : Labels).insert "zone" zone
    taints := [{ key := "dedicated", effect := .noSchedule }]
    allocatable := (ResourceList.cpuMemory { val := 500 } { val := 2048 }).insert .pods { val := 2 }
    runningPods := 1 }

/-- Two zones with a cache in each; the first has a database already. -/
def zones : ClusterView :=
  { nodes := [(dedicated "a" "east").place (database "db-0"), dedicated "b" "west"]
    index := ((({} : TopologyIndex).insert "a" cache).insert "b" cache) }

/-- The next database goes to the other zone. -/
theorem judge_standard_iff_zones :
    Chain.prepare .standard zones (database "db-1") =
      .ok { rules := .standard, notes := (database "db-1").notes } ∧
    (dedicated "b" "west").Suits (database "db-1") ∧
    zones.Welcomes (database "db-1") (dedicated "b" "west") := by
  have ready : Chain.prepare .standard zones (database "db-1") =
      .ok { rules := .standard, notes := (database "db-1").notes } := by rfl
  refine ⟨ready, (judge_standard_iff ready (by decide)).1.mp ?_⟩
  rfl

end Sample

end Headroom
