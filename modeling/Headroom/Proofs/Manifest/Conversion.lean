import Headroom.Node
import Headroom.Proofs.Except
/-!
# Manifests that can be converted

A node can be converted when its manifest is in order in every part (`Manifest.Node.Converts`). A
pod is only looked at when it counts: it has not finished and is bound to a listed node
(`Manifest.Pod.Counts`). What it is converted to stands under the name of its node and takes what
the pod effectively asks for (`Manifest.Pod.Counts.runsAs`).
-/

namespace Headroom

variable {nodes : List Manifest.Node} {pod : Manifest.Pod} {node : Node} {name : String}
  {workload : Workload}

/-! ## Nodes that can be converted -/

/-- What a manifest of a node must be like: it has a name, the effects of its taints are known, and
what it offers are quantities of proper resources. -/
structure Manifest.Node.Converts (manifest : Manifest.Node) : Prop where
  named : ∃ name, manifest.name = some name
  effects : ∀ taint ∈ manifest.taints, ∃ effect, TaintEffect.ofString? taint.effect = some effect
  amounts : ∀ entry ∈ manifest.allocatable.entries, ∃ name quantity amount,
    ResourceName.ofString? entry.1 = .ok name ∧ Quantity.parse entry.2 = .ok quantity ∧
      name.canonicalAmount quantity = .ok amount

theorem Manifest.Quantities.exists_amounts_eq_ok_iff {quantities : Manifest.Quantities} :
    (∃ list, quantities.amounts = .ok list) ↔ ∀ entry ∈ quantities.entries,
      ∃ name quantity amount, ResourceName.ofString? entry.1 = .ok name ∧
        Quantity.parse entry.2 = .ok quantity ∧ name.canonicalAmount quantity = .ok amount := by
  apply exists_foldlM_eq_ok_iff
  intro list entry
  simp only [bind_eq_ok_iff, ResourceList.insertQuantity]
  constructor
  · rintro ⟨next, name, named, quantity, parsed, amount, converted, -⟩
    exact ⟨name, quantity, amount, named, parsed, converted⟩
  · rintro ⟨name, quantity, amount, named, parsed, converted⟩
    exact ⟨_, name, named, quantity, parsed, amount, converted, rfl⟩

namespace Node

theorem exists_taintOf_eq_ok_iff {taint : Manifest.Taint} :
    (∃ converted, taintOf name taint = .ok converted) ↔
      ∃ effect, TaintEffect.ofString? taint.effect = some effect := by
  unfold taintOf
  cases TaintEffect.ofString? taint.effect <;> simp

/-- A node that has been converted has the name of its manifest, is closed if that says so, and
nothing is bound to it. -/
theorem ofManifest_eq_ok {manifest : Manifest.Node} (converted : ofManifest manifest = .ok node) :
    manifest.name = some node.name ∧ node.cordoned = manifest.cordoned ∧ node.allocated = ∅ ∧
      node.podCount = 0 := by
  unfold ofManifest at converted
  split at converted
  · contradiction
  · next name named =>
      simp only [bind_eq_ok_iff] at converted
      obtain ⟨allocatable, -, taints, -, same⟩ := converted
      cases same
      exact ⟨named, rfl, rfl, rfl⟩

theorem exists_ofManifest_eq_ok_iff {manifest : Manifest.Node} :
    (∃ node, ofManifest manifest = .ok node) ↔ manifest.Converts := by
  unfold ofManifest
  cases named : manifest.name with
  | none =>
      constructor
      · rintro ⟨node, converted⟩
        contradiction
      · intro converts
        obtain ⟨name, stated⟩ := converts.named
        rw [named] at stated
        contradiction
  | some name =>
      simp only [bind_eq_ok_iff, mapError_eq_ok_iff]
      constructor
      · rintro ⟨node, allocatable, offered, taints, tainted, -⟩
        refine ⟨⟨name, named⟩, fun taint member => ?_, ?_⟩
        · exact exists_taintOf_eq_ok_iff.mp
            (exists_mapM_eq_ok_iff.mp ⟨taints, tainted⟩ taint member)
        · exact Manifest.Quantities.exists_amounts_eq_ok_iff.mp ⟨allocatable, offered⟩
      · intro converts
        obtain ⟨allocatable, offered⟩ :=
          Manifest.Quantities.exists_amounts_eq_ok_iff.mpr converts.amounts
        obtain ⟨taints, tainted⟩ := exists_mapM_eq_ok_iff.mpr fun taint member =>
          exists_taintOf_eq_ok_iff.mpr (converts.effects taint member)
        exact ⟨_, allocatable, offered, taints, tainted, rfl⟩

end Node

/-! ## Pods that count -/

namespace Manifest.Pod

/-- A pod counts when it has not finished and is bound to a listed node. -/
structure Counts (nodes : List Manifest.Node) (pod : Manifest.Pod) : Prop where
  unfinished : pod.phase ≠ some "Succeeded" ∧ pod.phase ≠ some "Failed"
  listed : ∃ spec name, pod.spec = some spec ∧ spec.node = some name ∧ name ≠ "" ∧
    ∃ node ∈ nodes, node.name = some name

theorem boundNode?_eq_some_iff :
    pod.boundNode? = some name ↔
      ∃ spec, pod.spec = some spec ∧ spec.node = some name ∧ name ≠ "" := by
  simp only [boundNode?, Option.filter_eq_some_iff, Option.bind_eq_some_iff, decide_eq_true_eq]
  constructor
  · rintro ⟨⟨spec, stated, bound⟩, named⟩
    exact ⟨spec, stated, bound, named⟩
  · rintro ⟨spec, stated, bound, named⟩
    exact ⟨⟨spec, stated, bound⟩, named⟩

theorem counts_iff :
    pod.Counts nodes ↔ pod.isTerminal = false ∧
      ∃ name, pod.boundNode? = some name ∧ ∃ node ∈ nodes, node.name = some name := by
  simp only [boundNode?_eq_some_iff, isTerminal, Bool.or_eq_false_iff, decide_eq_false_iff_not]
  constructor
  · rintro ⟨unfinished, spec, name, stated, bound, named, listed⟩
    exact ⟨unfinished, name, ⟨spec, stated, bound, named⟩, listed⟩
  · rintro ⟨unfinished, name, ⟨spec, stated, bound, named⟩, listed⟩
    exact ⟨unfinished, spec, name, stated, bound, named, listed⟩

instance (nodes : List Manifest.Node) (pod : Manifest.Pod) : Decidable (pod.Counts nodes) :=
  decidable_of_iff (pod.isTerminal = false ∧ (pod.boundNode?.any fun name =>
    nodes.any fun node => node.name = some name) = true) (by
      rw [counts_iff]
      simp only [Option.any_eq_true, List.any_eq_true, decide_eq_true_eq])

/-- The workload that a pod runs, under the name of its node. -/
def entry (pod : Manifest.Pod) : Except RetrievalError (String × Workload) :=
  pod.toWorkload.map fun workload => (pod.boundNode?.getD "", workload)

theorem exists_entry_eq_ok_iff :
    (∃ running, pod.entry = .ok running) ↔ ∃ workload, pod.toWorkload = .ok workload := by
  unfold entry
  cases pod.toWorkload <;> simp [Except.map]

theorem entry_eq_error_iff {error : RetrievalError} :
    pod.entry = .error error ↔ pod.toWorkload = .error error := by
  unfold entry
  cases pod.toWorkload <;> simp [Except.map]

/-- Going through the reasons to pass over a pod one by one comes to the same as asking whether it
counts. -/
theorem takeIn_eq {σ : Type} {missing : String → Bool}
    (knows : ∀ name, missing name = true ↔ ¬∃ node ∈ nodes, node.name = some name) (pod : Pod)
    (take : String → Workload → σ) (state : σ) :
    (if pod.isTerminal then Except.ok state
      else match pod.boundNode? with
        | none => .ok state
        | some name =>
            if missing name then .ok state
            else do return take name (← pod.toWorkload)) =
      if pod.Counts nodes then pod.entry.map fun entry => take entry.1 entry.2
      else .ok state := by
  rw [if_congr counts_iff rfl rfl]
  unfold entry
  cases pod.isTerminal with
  | true => simp
  | false =>
      cases pod.boundNode? with
      | none => simp
      | some name =>
          have host : (∃ bound, some name = some bound ∧ ∃ node ∈ nodes, node.name = some bound) ↔
              ∃ node ∈ nodes, node.name = some name := by simp
          simp only [Bool.false_eq_true, if_false, knows, host, true_and]
          by_cases listed : ∃ node ∈ nodes, node.name = some name
          · rw [if_neg (not_not_intro listed), if_pos listed]
            cases pod.toWorkload <;> rfl
          · rw [if_pos listed, if_neg listed]

/-- How a pod stands in the running list: under the name of its node, with its own workload, which
takes what the pod effectively asks for. -/
structure RunsAs (pod : Manifest.Pod) (running : String × Workload) : Prop where
  converted : pod.toWorkload = .ok running.2
  bound : ∃ spec, pod.spec = some spec ∧ spec.node = some running.1 ∧
    spec.effectiveRequests = .ok running.2.requests

/-- A running pod takes what its specification effectively asks for. -/
theorem effectiveRequests_of_toWorkload {spec : Manifest.PodSpec} (stated : pod.spec = some spec)
    (converted : pod.toWorkload = .ok workload) :
    spec.effectiveRequests = .ok workload.requests := by
  unfold toWorkload at converted
  rw [stated] at converted
  simp only [bind_eq_ok_iff, mapError_eq_ok_iff] at converted
  obtain ⟨requests, asked, terms, -, same⟩ := converted
  cases same
  exact asked

theorem Counts.runsAs {running : String × Workload} (counts : pod.Counts nodes)
    (converted : pod.entry = .ok running) :
    pod.RunsAs running ∧ ∃ node ∈ nodes, node.name = some running.1 := by
  obtain ⟨spec, name, stated, bound, named, listed⟩ := counts.listed
  have host : pod.boundNode? = some name := boundNode?_eq_some_iff.mpr ⟨spec, stated, bound, named⟩
  unfold entry at converted
  cases found : pod.toWorkload with
  | error error =>
      rw [found] at converted
      contradiction
  | ok workload =>
      rw [found, host] at converted
      cases converted
      have asked := effectiveRequests_of_toWorkload stated found
      exact ⟨⟨found, spec, stated, bound, asked⟩, listed⟩

end Manifest.Pod

end Headroom
