import Headroom.Proofs.Admission.Admissible
import Mathlib.Data.Set.Basic
import Mathlib.Logic.Relation
/-!
# What running workloads are to others

A rule that relates workloads asks of those that run on a node whether one of a kind is there, by
its labels or by its forbidden terms, and of nothing else about them. The pair of the two is the
imprint of a workload. Two views of the same nodes with the same imprints on each accept the same
nodes for every workload (`Resembles.accepts_iff`), however many workloads leave an imprint, and
whatever runs under the names of nodes that are not in the view.
-/

namespace Headroom

/-- All that a workload is to others: the labels by which terms select it, and the terms with which
it repels. -/
def Workload.imprint (workload : Workload) : Labels × Set AffinityTerm :=
  (workload.labels, {term | term ∈ workload.forbiddenTerms})

/-- The imprints of the workloads under the name of a node. -/
def TopologyIndex.imprints (index : TopologyIndex) (name : String) :
    Set (Labels × Set AffinityTerm) :=
  {imprint | ∃ other ∈ index.workloadsOn name, other.imprint = imprint}

/-- Two views of the same nodes, with the same imprints of running workloads on each of them. -/
structure ClusterView.Resembles (view mirror : ClusterView) : Prop where
  nodes_eq : mirror.nodes = view.nodes
  imprints_eq : ∀ node ∈ view.nodes,
    view.index.imprints node.name = mirror.index.imprints node.name

variable {view mirror : ClusterView} {workload other twin : Workload} {host node : Node}
  {left right : TopologyIndex} {name : String} {rules : List StandardRule}

/-! ## Imprints -/

namespace Workload

theorem labels_eq_of_imprint_eq (same : twin.imprint = other.imprint) :
    twin.labels = other.labels :=
  congrArg Prod.fst same

theorem mem_forbiddenTerms_of_imprint_eq (same : twin.imprint = other.imprint)
    {term : AffinityTerm} (declared : term ∈ other.affinityTerms)
    (forbidden : term.kind = .forbidden) : term ∈ twin.affinityTerms := by
  have listed : term ∈ other.forbiddenTerms :=
    List.mem_filter.mpr ⟨declared, decide_eq_true forbidden⟩
  have kept : term ∈ twin.forbiddenTerms := by
    have terms_eq : twin.imprint.2 = other.imprint.2 := congrArg Prod.snd same
    exact (Set.ext_iff.mp terms_eq term).mpr listed
  exact (List.mem_filter.mp kept).1

end Workload

/-! ## Views -/

namespace ClusterView.Resembles

theorem symm (like : view.Resembles mirror) : mirror.Resembles view where
  nodes_eq := like.nodes_eq.symm
  imprints_eq := fun node listed => (like.imprints_eq node (like.nodes_eq ▸ listed)).symm

/-- Whatever a node hosts in one view, in the other it hosts a workload with the same imprint. -/
theorem exists_hosts (like : view.Resembles mirror) (hosts : view.Hosts host other) :
    ∃ twin, mirror.Hosts host twin ∧ twin.imprint = other.imprint := by
  obtain ⟨listed, running | placed⟩ := hosts
  · have left_behind : other.imprint ∈ view.index.imprints host.name := ⟨other, running, rfl⟩
    rw [like.imprints_eq host listed] at left_behind
    obtain ⟨twin, runs, same⟩ := left_behind
    exact ⟨twin, ⟨like.nodes_eq ▸ listed, .inl runs⟩, same⟩
  · exact ⟨other, ⟨like.nodes_eq ▸ listed, .inr placed⟩, rfl⟩

theorem unselected (like : view.Resembles mirror) {selector : LabelSelector} {P : Node → Prop}
    (clear : ∀ host other, view.Hosts host other → P host → selector.selects other.labels = false)
    (hosts : mirror.Hosts host other) (holds : P host) :
    selector.selects other.labels = false := by
  obtain ⟨twin, hosts', same⟩ := like.symm.exists_hosts hosts
  rw [← Workload.labels_eq_of_imprint_eq same]
  exact clear host twin hosts' holds

theorem welcomes (like : view.Resembles mirror) (welcome : view.Welcomes workload node) :
    mirror.Welcomes workload node where
  attracted := by
    intro term declared required
    obtain ⟨carried, ⟨host, other, hosts, shared, selected⟩ | ⟨nobody, opens⟩⟩ :=
      welcome.attracted term declared required
    · obtain ⟨twin, hosts', same⟩ := like.exists_hosts hosts
      refine ⟨carried, .inl ⟨host, twin, hosts', shared, ?_⟩⟩
      rwa [Workload.labels_eq_of_imprint_eq same]
    · refine ⟨carried, .inr ⟨fun host other hosts => ?_, opens⟩⟩
      exact like.unselected (P := fun _ => True) (fun host other there _ => nobody host other there)
        hosts trivial
  unopposed := by
    intro term declared forbidden host other hosts shared
    exact like.unselected (welcome.unopposed term declared forbidden) hosts shared
  unrepelled := by
    intro host other hosts term declared forbidden shared
    obtain ⟨twin, hosts', same⟩ := like.symm.exists_hosts hosts
    have repels := Workload.mem_forbiddenTerms_of_imprint_eq same declared forbidden
    exact welcome.unrepelled host twin hosts' term repels forbidden shared

/-- Rules between workloads see no more of what runs than its imprints. -/
theorem accepts_iff (like : view.Resembles mirror) :
    view.Accepts rules workload node ↔ mirror.Accepts rules workload node := by
  rw [ClusterView.accepts_iff, ClusterView.accepts_iff]
  have welcome_alike : view.Welcomes workload node ↔ mirror.Welcomes workload node :=
    ⟨like.welcomes, like.symm.welcomes⟩
  rw [welcome_alike]

end ClusterView.Resembles

/-! ## Changes that leave no trace -/

/-- A change to the workloads under one name that all of their imprints survive: another order, one
more or one less of the same, or another workload with the labels and the forbidden terms of the
old one, whatever it is called and whatever else it asks for. -/
inductive TopologyIndex.Rewords : List Workload → List Workload → Prop
  | permute {workloads others : List Workload} : workloads.Perm others → Rewords workloads others
  | duplicate {workloads : List Workload} {workload : Workload} : workload ∈ workloads →
      Rewords workloads (workload :: workloads)
  | merge {workloads : List Workload} {workload : Workload} : workload ∈ workloads →
      Rewords (workload :: workloads) workloads
  | alter {before after : List Workload} {old new : Workload} : new.labels = old.labels →
      (∀ term : AffinityTerm, term.kind = .forbidden →
        (term ∈ new.affinityTerms ↔ term ∈ old.affinityTerms)) →
      Rewords (before ++ old :: after) (before ++ new :: after)

namespace TopologyIndex

theorem Rewords.exists_imprint_iff {workloads others : List Workload}
    (rewords : Rewords workloads others) (imprint : Labels × Set AffinityTerm) :
    (∃ other ∈ workloads, other.imprint = imprint) ↔ ∃ other ∈ others, other.imprint = imprint := by
  cases rewords with
  | permute same => simp only [same.mem_iff]
  | duplicate member =>
      rw [List.exists_mem_cons_iff, or_iff_right_of_imp]
      exact fun same => ⟨_, member, same⟩
  | merge member =>
      rw [List.exists_mem_cons_iff, or_iff_right_of_imp]
      exact fun same => ⟨_, member, same⟩
  | @alter before after old new labels_eq terms_iff =>
      have same : new.imprint = old.imprint := by
        refine Prod.ext labels_eq (Set.ext fun term => ?_)
        show term ∈ new.forbiddenTerms ↔ term ∈ old.forbiddenTerms
        simp only [Workload.forbiddenTerms, List.mem_filter, decide_eq_true_eq]
        exact and_congr_left (terms_iff term)
      simp only [List.mem_append, List.mem_cons, or_and_right, exists_or, exists_eq_left, same]

/-- Any number of such changes leaves the imprints as they are. -/
theorem imprints_eq_of_rewords
    (changes : Relation.ReflTransGen Rewords (left.workloadsOn name) (right.workloadsOn name)) :
    left.imprints name = right.imprints name := by
  have kept : ∀ workloads, Relation.ReflTransGen Rewords (left.workloadsOn name) workloads →
      ∀ imprint, (∃ other ∈ left.workloadsOn name, other.imprint = imprint) ↔
        ∃ other ∈ workloads, other.imprint = imprint := by
    intro workloads changes imprint
    induction changes with
    | refl => exact Iff.rfl
    | tail _ last ih => exact ih.trans (last.exists_imprint_iff imprint)
  exact Set.ext (kept _ changes)

end TopologyIndex

end Headroom
