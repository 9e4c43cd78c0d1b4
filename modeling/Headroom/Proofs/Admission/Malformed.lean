import Headroom.Proofs.Admission.Chain
/-!
# Malformed workloads

Three of the standard rules check the form of a workload before the search, and what they check is
in the workload alone. A chain that objects before the search does so for the first of its rules
whose check fails, whatever the cluster (`prepare_eq_error_iff`). The standard chain so turns down
just the workloads with a malformed part, in the name of the rule that comes first
(`prepare_standard_eq_error_iff`).
-/

namespace Headroom

namespace Workload

/-- What a rule reads of a workload has a part that does not pass its check. -/
def Faulty (workload : Workload) : StandardRule → Prop
  | .nodeAffinity => ∃ terms, workload.nodeAffinity = some terms ∧
      ∃ term ∈ terms, ∃ requirement ∈ term.requirements, requirement.validate true ≠ .ok ()
  | .interWorkloadAffinity => ∃ term ∈ workload.affinityTerms,
      term.topologyKey = "" ∨ term.selector.validate ≠ .ok ()
  | .taintToleration => ∃ toleration ∈ workload.tolerations, toleration.validate ≠ .ok ()
  | .unschedulableExclusion | .resourceFit => False

/-- Some toleration, some requirement on the labels of nodes or some affinity term does not pass its
check. -/
def Malformed (workload : Workload) : Prop :=
  workload.Faulty .taintToleration ∨ workload.Faulty .nodeAffinity ∨
    workload.Faulty .interWorkloadAffinity

/-- The first rule of the standard chain that finds a malformed part in a workload. -/
inductive RefusedBy (workload : Workload) : StandardRule → Prop
  | nodeAffinity : workload.Faulty .nodeAffinity → RefusedBy workload .nodeAffinity
  | interWorkloadAffinity : ¬ workload.Faulty .nodeAffinity →
      workload.Faulty .interWorkloadAffinity → RefusedBy workload .interWorkloadAffinity
  | taintToleration : ¬ workload.Faulty .nodeAffinity → ¬ workload.Faulty .interWorkloadAffinity →
      workload.Faulty .taintToleration → RefusedBy workload .taintToleration

/-- The objection in the name of that rule, with the fault that its check reports. -/
def RefusedWith (workload : Workload) (rejection : Rejection) : Prop :=
  ∃ rule fault, workload.RefusedBy rule ∧ rule.check workload = .error fault ∧
    rejection = { rule := rule.name, status := .error fault }

end Workload

variable {view : ClusterView} {workload : Workload} {notes : Notes} {rule : StandardRule}
  {rules : List StandardRule} {rejection : Rejection}

/-! ## One rule -/

theorem AffinityTerm.validate_eq_ok_iff {term : AffinityTerm} :
    term.validate = .ok () ↔ term.topologyKey ≠ "" ∧ term.selector.validate = .ok () := by
  unfold validate
  split
  · next nameless => simp [nameless]
  · next named => simp [named, mapError_eq_ok_iff]

namespace StandardRule

/-- The check of a rule finds a fault exactly if there is a malformed part. -/
theorem check_eq_ok_iff : rule.check workload = .ok () ↔ ¬ workload.Faulty rule := by
  cases rule with
  | nodeAffinity =>
      simp only [check, mapError_eq_ok_iff, forM_eq_ok_iff, NodeSelectorTerm.validate,
        Workload.Faulty]
      cases workload.nodeAffinity <;> simp
  | interWorkloadAffinity =>
      simp only [check, mapError_eq_ok_iff, forM_eq_ok_iff, AffinityTerm.validate_eq_ok_iff,
        Workload.Faulty]
      simp
  | taintToleration =>
      simp only [check, mapError_eq_ok_iff, forM_eq_ok_iff, Workload.Faulty]
      simp
  | _ => simp [check, Workload.Faulty]

theorem exists_check_eq_error_iff :
    (∃ fault, rule.check workload = .error fault) ↔ workload.Faulty rule := by
  rw [← Classical.not_not (a := workload.Faulty rule), ← check_eq_ok_iff]
  cases rule.check workload <;> simp

/-- The check of a rule, with the fault as an objection of the rule. -/
def vet (workload : Workload) (rule : StandardRule) : Except Rejection Unit :=
  (rule.check workload).mapError fun fault => { rule := rule.name, status := .error fault }

end StandardRule

/-! ## Chains -/

namespace Chain

theorem prepareFrom_eq_error_iff :
    prepareFrom view workload (rules.map .standard) notes = .error rejection ↔
      FirstFailure (StandardRule.vet workload) rules rejection := by
  rw [← mapM_eq_error_iff]
  induction rules generalizing notes with
  | nil => simp [prepareFrom, pure, Except.pure]
  | cons rule rest ih =>
      rw [List.map_cons, prepareFrom, List.mapM_cons, StandardRule.vet]
      cases formed : rule.check workload with
      | error fault =>
          rw [StandardRule.takesPart_of_check_eq_error formed]
          show Except.error _ = _ ↔ Except.error _ = _
          rw [Except.error.injEq, Except.error.injEq]
      | ok _ =>
          rw [StandardRule.takesPart_of_check_eq_ok formed, ok_bind]
          exact bind_pure_eq_error_iff.trans (ih.trans bind_pure_eq_error_iff.symm)

/-- A chain of standard rules objects before the search as the first rule does whose check fails. No
part of the cluster comes into it. -/
theorem prepare_eq_error_iff :
    Chain.prepare (rules.map .standard) view workload = .error rejection ↔
      FirstFailure (StandardRule.vet workload) rules rejection :=
  prepareFrom_eq_error_iff

end Chain

/-! ## The standard chain -/

namespace Workload

theorem malformed_iff_not_wellFormed : workload.Malformed ↔ ¬ workload.WellFormed := by
  simp only [Malformed, WellFormed, StandardRule.check_eq_ok_iff, not_forall, Classical.not_not]
  constructor
  · rintro (tolerations | nodes | terms)
    · exact ⟨_, tolerations⟩
    · exact ⟨_, nodes⟩
    · exact ⟨_, terms⟩
  · rintro ⟨rule, faulty⟩
    cases rule with
    | taintToleration => exact .inl faulty
    | nodeAffinity => exact .inr (.inl faulty)
    | interWorkloadAffinity => exact .inr (.inr faulty)
    | _ => contradiction

theorem RefusedBy.faulty (refused : workload.RefusedBy rule) : workload.Faulty rule := by
  cases refused <;> assumption

theorem exists_refusedBy_iff : (∃ rule, workload.RefusedBy rule) ↔ workload.Malformed := by
  constructor
  · rintro ⟨rule, refused⟩
    rw [malformed_iff_not_wellFormed]
    exact fun formed => StandardRule.check_eq_ok_iff.mp (formed rule) refused.faulty
  · intro malformed
    by_cases nodes : workload.Faulty .nodeAffinity
    · exact ⟨_, .nodeAffinity nodes⟩
    · by_cases terms : workload.Faulty .interWorkloadAffinity
      · exact ⟨_, .interWorkloadAffinity nodes terms⟩
      · have tolerations : workload.Faulty .taintToleration := by
          simpa [Malformed, nodes, terms] using malformed
        exact ⟨_, .taintToleration nodes terms tolerations⟩

theorem exists_refusedWith_iff : (∃ rejection, workload.RefusedWith rejection) ↔
    workload.Malformed := by
  rw [← exists_refusedBy_iff]
  constructor
  · rintro ⟨rejection, rule, fault, refused, -, -⟩
    exact ⟨rule, refused⟩
  · rintro ⟨rule, refused⟩
    obtain ⟨fault, found⟩ := StandardRule.exists_check_eq_error_iff.mpr refused.faulty
    exact ⟨_, rule, fault, refused, found, rfl⟩

theorem vet_eq_ok_of_not_faulty (sound : ¬ workload.Faulty rule) :
    ∃ value, rule.vet workload = .ok value := by
  rw [StandardRule.vet, StandardRule.check_eq_ok_iff.mpr sound]
  exact ⟨(), rfl⟩

/-- In the standard chain no rule before the one that refuses a workload has a fault to report. -/
theorem RefusedWith.firstFailure (refused : workload.RefusedWith rejection) :
    FirstFailure (StandardRule.vet workload) StandardRule.all rejection := by
  obtain ⟨rule, fault, first, found, rfl⟩ := refused
  have objects : rule.vet workload = .error { rule := rule.name, status := .error fault } := by
    rw [StandardRule.vet, found]
    rfl
  cases first with
  | nodeAffinity _ =>
      refine ⟨[.unschedulableExclusion, .resourceFit], _, _, rfl, ?_, objects⟩
      simp only [List.forall_mem_cons]
      exact ⟨⟨(), rfl⟩, ⟨(), rfl⟩, by simp⟩
  | interWorkloadAffinity nodes _ =>
      refine ⟨[.unschedulableExclusion, .resourceFit, .nodeAffinity], _, _, rfl, ?_, objects⟩
      simp only [List.forall_mem_cons]
      exact ⟨⟨(), rfl⟩, ⟨(), rfl⟩, vet_eq_ok_of_not_faulty nodes, by simp⟩
  | taintToleration nodes terms _ =>
      refine ⟨[.unschedulableExclusion, .resourceFit, .nodeAffinity, .interWorkloadAffinity], _, _,
        rfl, ?_, objects⟩
      simp only [List.forall_mem_cons]
      exact ⟨⟨(), rfl⟩, ⟨(), rfl⟩, vet_eq_ok_of_not_faulty nodes, vet_eq_ok_of_not_faulty terms,
        by simp⟩

end Workload

theorem Chain.exists_prepare_standard_eq_ok_iff :
    (∃ prepared, Chain.prepare .standard view workload = .ok prepared) ↔ ¬ workload.Malformed := by
  rw [Workload.malformed_iff_not_wellFormed, Classical.not_not, Chain.standard,
    exists_prepare_eq_ok_iff]
  refine forall_congr' fun rule => ?_
  have member : rule ∈ StandardRule.all := by cases rule <;> decide
  simp [member]

/-- The standard chain objects before the search to just the malformed workloads, and it does so in
the same way in every cluster. -/
theorem Chain.prepare_standard_eq_error_iff :
    Chain.prepare .standard view workload = .error rejection ↔
      workload.RefusedWith rejection := by
  have refuses : ∀ {objection}, workload.RefusedWith objection →
      Chain.prepare .standard view workload = .error objection :=
    fun refused => prepare_eq_error_iff.mpr refused.firstFailure
  refine ⟨fun objects => ?_, refuses⟩
  -- some objection is raised by the first rule that finds a fault, and it can be no other
  have malformed : workload.Malformed := by
    by_contra formed
    obtain ⟨prepared, ready⟩ := exists_prepare_standard_eq_ok_iff.mpr formed
    rw [objects] at ready
    contradiction
  obtain ⟨objection, refused⟩ := Workload.exists_refusedWith_iff.mpr malformed
  have same := objects.symm.trans (refuses refused)
  rw [Except.error.injEq] at same
  rwa [same]

end Headroom
