import Headroom.Proofs.Admission.Admissible
/-!
# Nodes that host nothing

A node on which nothing runs, and on which nothing has been placed, is in the view for newcomers
only. Wherever it stands in the list, a chain gets ready as it would without it (`prepare_eq`), and
says the same about every node (`judge_eq`): no domain, no group and no repelled neighbour changes.
-/

namespace Headroom

variable {view wider : ClusterView} {newcomer node : Node} {workload : Workload} {rule : Rule}
  {notes : Notes} {rules : List StandardRule}

/-- A view with one more node, which hosts nothing. -/
structure ClusterView.Widens (view : ClusterView) (newcomer : Node) (wider : ClusterView) :
    Prop where
  split : ∃ before after, view.nodes = before ++ after ∧
    wider.nodes = before ++ newcomer :: after
  index_eq : wider.index = view.index
  vacant : view.hosted newcomer = []

namespace ClusterView.Widens

/-! ## What is hosted -/

theorem hosted_eq (wide : view.Widens newcomer wider) : wider.hosted = view.hosted := by
  funext node
  rw [hosted, hosted, wide.index_eq]

/-- What adds up over the nodes gains nothing from a node that has nothing to add. -/
theorem flatMap_nodes (wide : view.Widens newcomer wider) {share : Node → List Workload}
    (silent : share newcomer = []) : wider.nodes.flatMap share = view.nodes.flatMap share := by
  obtain ⟨before, after, without, within⟩ := wide.split
  rw [without, within, List.flatMap_append, List.flatMap_append, List.flatMap_cons, silent,
    List.nil_append]

theorem allHosted_eq (wide : view.Widens newcomer wider) : wider.allHosted = view.allHosted := by
  rw [allHosted, allHosted, wide.hosted_eq]
  exact wide.flatMap_nodes wide.vacant

theorem placed_eq (wide : view.Widens newcomer wider) : wider.placed = view.placed :=
  wide.flatMap_nodes (List.append_eq_nil_iff.mp wide.vacant).2

/-- The newcomer may be in a domain, but it brings no workload into it. -/
theorem hostedIn_eq (wide : view.Widens newcomer wider) (key value : String) :
    wider.hostedIn key value = view.hostedIn key value := by
  obtain ⟨before, after, without, within⟩ := wide.split
  simp only [hostedIn, domain, wide.hosted_eq, without, within, List.filter_append,
    List.filter_cons, List.flatMap_append]
  split
  · rw [List.flatMap_cons, wide.vacant, List.nil_append]
  · rfl

/-! ## What rules say -/

theorem attracts_eq (wide : view.Widens newcomer wider) : wider.attracts = view.attracts := by
  funext selector key value
  rw [attracts, attracts, wide.hostedIn_eq]

theorem mayOpen_eq (wide : view.Widens newcomer wider) : wider.mayOpen = view.mayOpen := by
  funext selector workload
  rw [mayOpen, mayOpen, wide.allHosted_eq]

theorem isRepelled_eq (wide : view.Widens newcomer wider) (workload : Workload) (node : Node) :
    wider.isRepelled workload node = view.isRepelled workload node := by
  obtain ⟨before, after, without, within⟩ := wide.split
  simp only [isRepelled, wide.hosted_eq, without, within, List.any_append, List.any_cons,
    wide.vacant, List.any_nil, Bool.false_or]

theorem concerns_eq (wide : view.Widens newcomer wider) (workload : Workload) :
    wider.concerns workload = view.concerns workload := by
  rw [concerns, concerns, wide.placed_eq, wide.index_eq]

theorem applies_eq (wide : view.Widens newcomer wider) (rule : StandardRule) :
    rule.applies wider workload = rule.applies view workload := by
  cases rule with
  | interWorkloadAffinity => exact wide.concerns_eq workload
  | _ => rfl

theorem unsociable?_eq (wide : view.Widens newcomer wider) (terms : List AffinityTerm)
    (workload : Workload) (node : Node) :
    wider.unsociable? terms workload node = view.unsociable? terms workload node := by
  have terms_alike : wider.obstacle? workload node = view.obstacle? workload node := by
    funext term
    simp only [obstacle?, unmet?, conflict?, wide.attracts_eq, wide.mayOpen_eq]
  rw [unsociable?, unsociable?, terms_alike, wide.isRepelled_eq]

theorem obstacle?_eq (wide : view.Widens newcomer wider) (rule : StandardRule) :
    rule.obstacle? wider notes workload node = rule.obstacle? view notes workload node := by
  cases rule with
  | interWorkloadAffinity => exact wide.unsociable?_eq notes.affinityTerms workload node
  | _ => rfl

theorem accepts_iff (wide : view.Widens newcomer wider) :
    wider.Accepts rules workload node ↔ view.Accepts rules workload node := by
  simp only [Accepts, wide.obstacle?_eq]

theorem welcomes_iff (wide : view.Widens newcomer wider) :
    wider.Welcomes workload node ↔ view.Welcomes workload node := by
  rw [← unsociable?_eq_none_iff, ← unsociable?_eq_none_iff, wide.unsociable?_eq]

/-! ## Chains -/

theorem takesPart_eq (wide : view.Widens newcomer wider) :
    rule.takesPart wider workload notes = rule.takesPart view workload notes := by
  have prepare_alike : rule.prepare wider workload notes = rule.prepare view workload notes := by
    cases rule with
    | fixed rule => rfl
    | standard rule => rw [Rule.prepare, Rule.prepare, wide.applies_eq]
  rw [Rule.takesPart, Rule.takesPart, prepare_alike]

/-- A chain gets ready, or objects, as it would without the newcomer. -/
theorem prepare_eq (wide : view.Widens newcomer wider) (chain : Chain) (workload : Workload) :
    chain.prepare wider workload = chain.prepare view workload := by
  have from_notes : ∀ notes, chain.prepareFrom wider workload notes =
      chain.prepareFrom view workload notes := by
    induction chain with
    | nil => exact fun _ => rfl
    | cons rule rest ih =>
        intro notes
        simp only [Chain.prepareFrom, wide.takesPart_eq, ih]
  exact from_notes {}

theorem judge_eq (wide : view.Widens newcomer wider) (prepared : Prepared) (workload : Workload)
    (node : Node) : prepared.judge wider workload node = prepared.judge view workload node := by
  have rules_alike : ∀ rule : Rule, rule.accept wider prepared.notes workload node =
      rule.accept view prepared.notes workload node := by
    intro rule
    cases rule with
    | fixed rule => rfl
    | standard rule => simp only [Rule.accept, Rule.judge, wide.obstacle?_eq]
  simp only [Prepared.judge, rules_alike]

end ClusterView.Widens

end Headroom
