import Mathlib.Data.Finset.Dedup
import Mathlib.Data.Finset.Card
import Headroom.Proofs.Admission.Admissible
/-!
# Nodes apart

Workloads that are spread by a label must stand on nodes that do not share a value of it. How many
such nodes a list has can be counted (`spreadCapacity`): whatever node is taken first, what is left
to choose from has one less (`spreadCapacity_cons`), so the count is that of the largest choices
(`exists_choice_iff`).
-/

namespace Headroom

variable {spreadBy : Option String} {node : Node} {nodes choice : List Node}

instance Node.decidableSameDomain (key : String) (left right : Node) :
    Decidable (left.SameDomain key right) :=
  inferInstanceAs (Decidable (_ ∧ _))

/-- Two nodes that share no value of the label by which workloads are spread, if they are. -/
def Node.Apart (spreadBy : Option String) (left right : Node) : Prop :=
  ∀ key ∈ spreadBy, ¬ left.SameDomain key right

instance Node.decidableApart (spreadBy : Option String) (left right : Node) :
    Decidable (left.Apart spreadBy right) :=
  inferInstanceAs (Decidable (∀ key ∈ spreadBy, ¬ left.SameDomain key right))

/-- How many nodes of a list can be chosen apart: all that lack the label, and one for each of its
values. -/
def spreadCapacity : Option String → List Node → Nat
  | none, nodes => nodes.length
  | some key, nodes =>
      (nodes.filter fun node => (node.labels.get? key).isNone).length +
        (nodes.filterMap fun node => node.labels.get? key).toFinset.card

/-- Where a node stands apart from all others, taking it leaves the others to choose from. -/
theorem filter_apart_eq_self {rest : List Node}
    (apart : ∀ other ∈ rest, node.Apart spreadBy other) :
    rest.filter (node.Apart spreadBy ·) = rest :=
  List.filter_eq_self.mpr fun other member => decide_eq_true (apart other member)

theorem mem_values_filter_apart_iff {key value other : String} {rest : List Node}
    (carried : node.labels.get? key = some value) :
    other ∈ (rest.filter (node.Apart (some key) ·)).filterMap (fun node => node.labels.get? key) ↔
      other ≠ value ∧ other ∈ rest.filterMap fun node => node.labels.get? key := by
  simp only [List.mem_filterMap, List.mem_filter, decide_eq_true_eq, Node.Apart,
    Option.mem_def, Option.some.injEq, forall_eq', Node.sameDomain_iff_of_get?_eq_some carried]
  constructor
  · rintro ⟨host, ⟨listed, apart⟩, found⟩
    refine ⟨fun same => apart (same ▸ found), host, listed, found⟩
  · rintro ⟨differ, host, listed, found⟩
    refine ⟨host, ⟨listed, fun same => differ ?_⟩, found⟩
    rw [found, Option.some.injEq] at same
    exact same

/-- A node that is taken uses up itself, or the value that it carries, and nothing more. -/
theorem spreadCapacity_cons (spreadBy : Option String) (node : Node) (rest : List Node) :
    spreadCapacity spreadBy (node :: rest) =
      spreadCapacity spreadBy (rest.filter (node.Apart spreadBy ·)) + 1 := by
  cases spreadBy with
  | none =>
      rw [filter_apart_eq_self fun _ _ => by simp [Node.Apart]]
      rfl
  | some key =>
      cases carried : node.labels.get? key with
      | none =>
          -- a node without the label shares no value with any other
          rw [filter_apart_eq_self fun _ _ => by simp [Node.Apart, Node.SameDomain, carried]]
          simp only [spreadCapacity, carried, List.filter_cons, List.filterMap_cons,
            Option.isNone_none, if_true, List.length_cons]
          omega
      | some value =>
          -- the nodes with its value go: one value less, and no node without the label
          have bare : (rest.filter (node.Apart (some key) ·)).filter
              (fun node => (node.labels.get? key).isNone) =
                rest.filter fun node => (node.labels.get? key).isNone := by
            rw [List.filter_filter]
            refine List.filter_congr fun other _ => ?_
            cases found : other.labels.get? key with
            | none =>
                simp [Node.Apart, Node.sameDomain_iff_of_get?_eq_some carried, found]
            | some held => simp
          have values : ((rest.filter (node.Apart (some key) ·)).filterMap
              fun node => node.labels.get? key).toFinset =
                (rest.filterMap fun node => node.labels.get? key).toFinset.erase value := by
            ext other
            rw [List.mem_toFinset, mem_values_filter_apart_iff carried, Finset.mem_erase,
              List.mem_toFinset]
          simp only [spreadCapacity, carried, List.filter_cons, List.filterMap_cons,
            Option.isNone_some, Bool.false_eq_true, if_false, List.toFinset_cons, bare, values]
          rw [← Finset.card_erase_add_one (Finset.mem_insert_self _ _),
            Finset.erase_insert_eq_erase, Nat.add_assoc]

/-! ## Choices -/

/-- A choice of nodes that are all apart is as large as it can be counted. -/
theorem spreadCapacity_eq_length (apart : choice.Pairwise (Node.Apart spreadBy)) :
    spreadCapacity spreadBy choice = choice.length := by
  induction choice with
  | nil => cases spreadBy <;> rfl
  | cons node rest ih =>
      obtain ⟨first, others⟩ := List.pairwise_cons.mp apart
      rw [spreadCapacity_cons, filter_apart_eq_self first, ih others, List.length_cons]

/-- Only the labels of the nodes matter, and more nodes leave more to choose from. -/
theorem spreadCapacity_le_of_labels_sublist {others : List Node}
    (sub : (nodes.map (·.labels)).Sublist (others.map (·.labels))) :
    spreadCapacity spreadBy nodes ≤ spreadCapacity spreadBy others := by
  cases spreadBy with
  | none =>
      have fewer := sub.length_le
      rw [List.length_map, List.length_map] at fewer
      exact fewer
  | some key =>
      have bare := (sub.filter fun labels => (labels.get? key).isNone).length_le
      have values := (sub.filterMap fun labels => labels.get? key).subset
      rw [List.filter_map, List.filter_map, List.length_map, List.length_map] at bare
      rw [List.filterMap_map, List.filterMap_map] at values
      refine Nat.add_le_add bare (Finset.card_le_card fun value member => ?_)
      rw [List.mem_toFinset] at member ⊢
      exact values member

theorem spreadCapacity_le_of_sublist (sub : choice.Sublist nodes) :
    spreadCapacity spreadBy choice ≤ spreadCapacity spreadBy nodes :=
  spreadCapacity_le_of_labels_sublist (sub.map _)

/-- The order of a list does not matter. -/
theorem spreadCapacity_perm {others : List Node} (same : nodes.Perm others) :
    spreadCapacity spreadBy nodes = spreadCapacity spreadBy others := by
  cases spreadBy with
  | none => exact same.length_eq
  | some key =>
      rw [spreadCapacity, spreadCapacity, (same.filter _).length_eq,
        List.toFinset_eq_of_perm _ _ (same.filterMap _)]

/-- The largest choice is found by taking the first node and going on with those apart from it. -/
theorem exists_choice_length_eq (spreadBy : Option String) (nodes : List Node) :
    ∃ choice : List Node, choice.Sublist nodes ∧ choice.Pairwise (Node.Apart spreadBy) ∧
      choice.length = spreadCapacity spreadBy nodes := by
  induction size : nodes.length using Nat.strongRecOn generalizing nodes with
  | ind length ih =>
      cases nodes with
      | nil => exact ⟨[], .refl _, .nil, by cases spreadBy <;> rfl⟩
      | cons node rest =>
          have smaller : (rest.filter (node.Apart spreadBy ·)).length < length := by
            have bound := List.length_filter_le (node.Apart spreadBy ·) rest
            rw [← size, List.length_cons]
            omega
          obtain ⟨choice, sub, apart, full⟩ := ih _ smaller _ rfl
          refine ⟨node :: choice, (sub.trans List.filter_sublist).cons_cons node, ?_, ?_⟩
          · refine List.pairwise_cons.mpr ⟨fun other member => ?_, apart⟩
            exact of_decide_eq_true (List.mem_filter.mp (sub.subset member)).2
          · rw [List.length_cons, full, spreadCapacity_cons]

/-- So many nodes can be chosen apart as the capacity says, and no more. -/
theorem exists_choice_iff {count : Nat} :
    (∃ choice : List Node, choice.Sublist nodes ∧ choice.Pairwise (Node.Apart spreadBy) ∧
      choice.length = count) ↔ count ≤ spreadCapacity spreadBy nodes := by
  constructor
  · rintro ⟨choice, sub, apart, rfl⟩
    rw [← spreadCapacity_eq_length apart]
    exact spreadCapacity_le_of_sublist sub
  · intro enough
    obtain ⟨choice, sub, apart, full⟩ := exists_choice_length_eq spreadBy nodes
    refine ⟨choice.take count, (List.take_sublist count choice).trans sub,
      apart.sublist (List.take_sublist count choice), ?_⟩
    rw [List.length_take, full, Nat.min_eq_left enough]

theorem spreadCapacity_le_length : spreadCapacity spreadBy nodes ≤ nodes.length := by
  obtain ⟨choice, sub, -, full⟩ := exists_choice_length_eq spreadBy nodes
  rw [← full]
  exact sub.length_le

/-- The capacity does not shrink when there are more nodes, or when they need not be apart. -/
theorem spreadCapacity_le_of_dropped {others : List Node} {kept : Option String}
    (dropped : ∀ key ∈ kept, key ∈ spreadBy)
    (sub : (nodes.map (·.labels)).Sublist (others.map (·.labels))) :
    spreadCapacity spreadBy nodes ≤ spreadCapacity kept others := by
  cases kept with
  | none =>
      have fewer := sub.length_le
      rw [List.length_map, List.length_map] at fewer
      exact spreadCapacity_le_length.trans fewer
  | some key =>
      have same : spreadBy = some key := dropped key rfl
      rw [same]
      exact spreadCapacity_le_of_labels_sublist sub

end Headroom
