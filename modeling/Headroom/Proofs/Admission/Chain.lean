import Headroom.Admission.Chain
import Headroom.Proofs.Except
/-!
# Chains of standard rules

A chain of standard rules prepares for a workload exactly when each of them finds it well formed
(`exists_prepare_eq_ok_iff`). It then accepts a node exactly when none of its rules has anything
against the node (`judge_eq_ok_iff`): a rule that was skipped would not have objected, and the notes
hold the terms of the workload whenever a rule reads them. While it judges it never calls a workload
malformed (`judge_isError_eq_false`).
-/

namespace Headroom

/-- What is noted about a workload for the rule between workloads. -/
def Workload.notes (workload : Workload) : Notes := { affinityTerms := workload.affinityTerms }

/-- A workload in whose form no standard rule finds a fault. -/
def Workload.WellFormed (workload : Workload) : Prop :=
  ∀ rule : StandardRule, rule.check workload = .ok ()

variable {view : ClusterView} {workload : Workload} {node : Node} {notes : Notes}
  {rule : StandardRule} {rules : List StandardRule} {prepared : Prepared}

/-! ## One rule -/

namespace StandardRule

/-- The notes once a rule has had its turn before the search. -/
def noteIfApplies (rule : StandardRule) (view : ClusterView) (workload : Workload)
    (notes : Notes) : Notes :=
  if rule.applies view workload then rule.note workload notes else notes

theorem takesPart_of_check_eq_ok (formed : rule.check workload = .ok ()) :
    (Rule.standard rule).takesPart view workload notes =
      .ok (rule.applies view workload, rule.noteIfApplies view workload notes) := by
  have validated : (Rule.standard rule).validate workload = .success := by
    simp only [Rule.validate, formed, Status.ofCheck, ite_self]
  simp only [Rule.takesPart, validated, Rule.prepare, formed, ite_self, noteIfApplies]
  cases rule.applies view workload <;> rfl

/-- A fault in the form of a workload stops the chain in whichever stage it is found, also where the
rule would have been skipped. -/
theorem takesPart_of_check_eq_error {fault : WorkloadFault}
    (malformed : rule.check workload = .error fault) :
    (Rule.standard rule).takesPart view workload notes =
      .error { rule := rule.name, status := .error fault } := by
  cases first : rule.checksFirst with
  | true =>
      simp only [Rule.takesPart, Rule.validate, first, if_true, malformed, Status.ofCheck]
      rfl
  | false =>
      simp only [Rule.takesPart, Rule.validate, Rule.prepare, first, Bool.false_eq_true, if_false,
        malformed]
      rfl

theorem accept_eq_ok_iff :
    (Rule.standard rule).accept view notes workload node = .ok () ↔
      rule.obstacle? view notes workload node = none := by
  simp only [Rule.accept, Rule.judge]
  cases rule.obstacle? view notes workload node <;> simp

/-- A standard rule turns nodes down, never workloads. -/
theorem accept_isError_eq_false {rejection : Rejection}
    (objects : (Rule.standard rule).accept view notes workload node = .error rejection) :
    rejection.status.isError = false := by
  simp only [Rule.accept, Rule.judge] at objects
  cases obstacle : rule.obstacle? view notes workload node with
  | none => simp [obstacle] at objects
  | some reason =>
      simp only [obstacle, Except.error.injEq] at objects
      rw [← objects]
      rfl

/-- Only the rule between workloads reads the notes. -/
theorem obstacle?_congr_notes {other : Notes}
    (same : rule = interWorkloadAffinity → notes = other) :
    rule.obstacle? view notes workload node = rule.obstacle? view other workload node := by
  cases rule with
  | interWorkloadAffinity => rw [same rfl]
  | _ => rfl

theorem noteIfApplies_notes : rule.noteIfApplies view workload workload.notes = workload.notes := by
  unfold noteIfApplies
  split
  · cases rule <;> rfl
  · rfl

end StandardRule

/-! ## Skipping -/

namespace ClusterView

theorem mem_placed_or_mem_workloads {host : Node} {other : Workload} (listed : host ∈ view.nodes)
    (hosted : other ∈ view.hosted host) :
    other ∈ view.placed ∨ other ∈ view.index.workloads := by
  rcases List.mem_append.mp hosted with running | placed
  · right
    simp only [TopologyIndex.workloadsOn] at running
    cases found : view.index.byNode.get? host.name with
    | none => simp [found] at running
    | some workloads =>
        rw [found] at running
        have entry := Dict.mem_entries_iff.mpr found
        exact List.mem_flatten.mpr ⟨workloads, List.mem_map_of_mem entry, running⟩
  · exact .inl (List.mem_flatMap.mpr ⟨host, listed, placed⟩)

/-- Where terms between workloads cannot matter, nobody repels the newcomer. -/
theorem isRepelled_eq_false_of_not_concerns (unconcerned : view.concerns workload = false) :
    view.isRepelled workload node = false := by
  simp only [concerns, Bool.or_eq_false_iff] at unconcerned
  obtain ⟨⟨-, calm⟩, quiet⟩ := unconcerned
  simp only [isRepelled, List.any_eq_false]
  intro host listed repels
  obtain ⟨other, hosted, repels⟩ := List.any_eq_true.mp repels
  have silent : other.forbiddenTerms = [] := by
    rcases mem_placed_or_mem_workloads listed hosted with placed | running
    · simpa using List.any_eq_false.mp calm other placed
    · simpa using List.any_eq_false.mp quiet other running
  simp [silent] at repels

end ClusterView

/-- A rule that is skipped would have had nothing against any node. -/
theorem StandardRule.obstacle?_eq_none_of_not_applies
    (skipped : rule.applies view workload = false) :
    rule.obstacle? view workload.notes workload node = none := by
  cases rule with
  | interWorkloadAffinity =>
      have unconcerned : view.concerns workload = false := skipped
      have calm : view.isRepelled workload node = false :=
        ClusterView.isRepelled_eq_false_of_not_concerns unconcerned
      simp only [ClusterView.concerns, Bool.or_eq_false_iff, Bool.not_eq_false',
        List.isEmpty_iff] at unconcerned
      simp [obstacle?, ClusterView.unsociable?, Workload.notes, unconcerned.1.1, calm]
  | _ => simp [applies] at skipped

/-! ## Before the search -/

namespace Chain

/-- What the stages before the search leave behind when nothing is malformed. -/
theorem prepareFrom_standard (formed : ∀ rule ∈ rules, rule.check workload = .ok ())
    (notes : Notes) :
    prepareFrom view workload (rules.map .standard) notes =
      .ok
        { rules := (rules.filter (·.applies view workload)).map .standard
          notes :=
            rules.foldl (fun noted rule => rule.noteIfApplies view workload noted) notes } := by
  induction rules generalizing notes with
  | nil => rfl
  | cons rule rest ih =>
      have first := formed rule List.mem_cons_self
      have others := fun other member => formed other (List.mem_cons_of_mem _ member)
      simp only [List.map_cons, prepareFrom, StandardRule.takesPart_of_check_eq_ok first,
        ok_bind, ih others, List.foldl_cons, List.filter_cons]
      cases rule.applies view workload <;> rfl

theorem check_eq_ok_of_prepareFrom
    (ready : prepareFrom view workload (rules.map .standard) notes = .ok prepared) :
    ∀ rule ∈ rules, rule.check workload = .ok () := by
  induction rules generalizing notes prepared with
  | nil => simp
  | cons rule rest ih =>
      simp only [List.map_cons, prepareFrom, bind_eq_ok_iff] at ready
      obtain ⟨⟨needed, noted⟩, takesPart, others, ready, -⟩ := ready
      intro other member
      rcases List.mem_cons.mp member with same | later
      · cases formed : other.check workload with
        | ok value => rfl
        | error fault =>
            rw [← same, StandardRule.takesPart_of_check_eq_error formed] at takesPart
            contradiction
      · exact ih ready other later

theorem foldl_noteIfApplies_notes :
    rules.foldl (fun noted rule => rule.noteIfApplies view workload noted) workload.notes =
      workload.notes := by
  induction rules with
  | nil => rfl
  | cons rule rest ih => rw [List.foldl_cons, StandardRule.noteIfApplies_notes, ih]

/-- The notes hold the terms of the workload once the rule between workloads has had its turn. -/
theorem foldl_noteIfApplies_eq (member : .interWorkloadAffinity ∈ rules)
    (applies : StandardRule.interWorkloadAffinity.applies view workload = true) :
    rules.foldl (fun noted rule => rule.noteIfApplies view workload noted) notes =
      workload.notes := by
  induction rules generalizing notes with
  | nil => simp at member
  | cons rule rest ih =>
      rw [List.foldl_cons]
      rcases List.mem_cons.mp member with same | later
      · have noted : rule.noteIfApplies view workload notes = workload.notes := by
          simp [← same, StandardRule.noteIfApplies, applies, StandardRule.note, Workload.notes]
        rw [noted, foldl_noteIfApplies_notes]
      · exact ih later

/-- Where terms between workloads cannot matter nothing is noted. -/
theorem foldl_noteIfApplies_of_not_applies
    (skipped : StandardRule.interWorkloadAffinity.applies view workload = false) :
    rules.foldl (fun noted rule => rule.noteIfApplies view workload noted) notes = notes := by
  induction rules generalizing notes with
  | nil => rfl
  | cons rule rest ih =>
      have kept : rule.noteIfApplies view workload notes = notes := by
        cases rule with
        | interWorkloadAffinity => simp [StandardRule.noteIfApplies, skipped]
        | _ => rfl
      rw [List.foldl_cons, kept, ih]

/-- A chain of standard rules gets ready for just the workloads that its rules find well formed. -/
theorem exists_prepare_eq_ok_iff :
    (∃ prepared, Chain.prepare (rules.map .standard) view workload = .ok prepared) ↔
      ∀ rule ∈ rules, rule.check workload = .ok () := by
  constructor
  · rintro ⟨prepared, ready⟩
    exact check_eq_ok_of_prepareFrom ready
  · intro formed
    exact ⟨_, prepareFrom_standard formed {}⟩

/-- The rules that take part are those that apply. -/
theorem rules_of_prepare
    (ready : Chain.prepare (rules.map .standard) view workload = .ok prepared) :
    prepared.rules = (rules.filter (·.applies view workload)).map .standard := by
  rw [prepare, prepareFrom_standard (check_eq_ok_of_prepareFrom ready), Except.ok.injEq] at ready
  rw [← ready]

end Chain

/-! ## Judging -/

/-- No rule of a list has anything against a node. -/
def ClusterView.Accepts (view : ClusterView) (rules : List StandardRule) (workload : Workload)
    (node : Node) : Prop :=
  ∀ rule ∈ rules, rule.obstacle? view workload.notes workload node = none

namespace Prepared

theorem judge_eq_ok_iff_of_rules (active : prepared.rules = rules.map .standard) :
    prepared.judge view workload node = .ok () ↔
      ∀ rule ∈ rules, rule.obstacle? view prepared.notes workload node = none := by
  simp only [judge, active, forM_eq_ok_iff, List.forall_mem_map, StandardRule.accept_eq_ok_iff]

/-- A rule finds the terms of the workload in the notes, also where it may be skipped: then the
workload has no terms, and nothing has been noted. -/
theorem obstacle?_notes
    (ready : Chain.prepare (rules.map .standard) view workload = .ok prepared)
    (member : rule ∈ rules) :
    rule.obstacle? view prepared.notes workload node =
      rule.obstacle? view workload.notes workload node := by
  have formed := Chain.check_eq_ok_of_prepareFrom ready
  rw [Chain.prepare, Chain.prepareFrom_standard formed, Except.ok.injEq] at ready
  subst ready
  refine StandardRule.obstacle?_congr_notes fun reads => ?_
  subst reads
  cases applies : StandardRule.interWorkloadAffinity.applies view workload with
  | true => exact Chain.foldl_noteIfApplies_eq member applies
  | false =>
      have termless : workload.affinityTerms = [] := by
        simp only [StandardRule.applies, ClusterView.concerns, Bool.or_eq_false_iff,
          Bool.not_eq_false', List.isEmpty_iff] at applies
        exact applies.1.1
      show rules.foldl _ {} = workload.notes
      rw [Chain.foldl_noteIfApplies_of_not_applies applies, Workload.notes, termless]

/-- A chain that is ready accepts the nodes that none of its rules has anything against, the
skipped ones included. -/
theorem judge_eq_ok_iff
    (ready : Chain.prepare (rules.map .standard) view workload = .ok prepared) :
    prepared.judge view workload node = .ok () ↔ view.Accepts rules workload node := by
  rw [judge_eq_ok_iff_of_rules (Chain.rules_of_prepare ready)]
  constructor
  · intro unopposed rule member
    cases applies : rule.applies view workload with
    | false => exact StandardRule.obstacle?_eq_none_of_not_applies applies
    | true =>
        rw [← obstacle?_notes ready member]
        exact unopposed rule (List.mem_filter.mpr ⟨member, applies⟩)
  · intro unopposed rule active
    have member := (List.mem_filter.mp active).1
    rw [obstacle?_notes ready member]
    exact unopposed rule member

/-- Standard rules object to nodes, so no node makes them call the workload malformed. -/
theorem judge_isError_eq_false_of_rules {rejection : Rejection}
    (active : prepared.rules = rules.map .standard)
    (objects : prepared.judge view workload node = .error rejection) :
    rejection.status.isError = false := by
  obtain ⟨rule, member, objects⟩ := exists_mem_of_forM_eq_error objects
  rw [active] at member
  obtain ⟨standard, -, same⟩ := List.mem_map.mp member
  rw [← same] at objects
  exact StandardRule.accept_isError_eq_false objects

theorem judge_isError_eq_false {rejection : Rejection}
    (ready : Chain.prepare (rules.map .standard) view workload = .ok prepared)
    (objects : prepared.judge view workload node = .error rejection) :
    rejection.status.isError = false :=
  judge_isError_eq_false_of_rules (Chain.rules_of_prepare ready) objects

end Prepared

end Headroom
