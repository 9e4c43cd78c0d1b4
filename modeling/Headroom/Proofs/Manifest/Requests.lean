import Headroom.Proofs.Manifest.Conversion
import Headroom.Proofs.Resource.Sum
/-!
# Requests that are not negative

A quantity may have a minus sign, and nothing in a manifest is checked for it. Where no quantity is
below zero, neither is what a pod takes from its node
(`Manifest.Pod.NonNegative.requests_nonNegative`): amounts are rounded up, and the sum over the
containers, the maximum with the init containers and the overhead bring no sign with them.
-/

namespace Headroom

/-! ## Quantities -/

namespace Quantity

variable {quantity : Quantity} {shift size : Nat} {amount : Amount}

theorem shrink_zero (negative : Bool) (places : Nat) : shrink negative 0 places = 0 := by
  have positive : 0 < Nat.pow 10 places := Nat.pow_pos (by decide)
  unfold shrink
  split
  · simp
  · cases negative with
    | true => exact Nat.zero_div (Nat.pow 10 places)
    | false => exact Nat.div_eq_of_lt (by omega)

theorem size?_eq_zero (zero : quantity.mantissa = 0) (found : quantity.size? shift = some size) :
    size = 0 := by
  simp only [size?, zero, Nat.zero_mul, shrink_zero, Option.ite_none_left_eq_some] at found
  obtain ⟨-, shifted⟩ := found
  split at shifted
  · exact (Option.some.inj shifted).symm
  · simp only [Option.ite_none_left_eq_some] at shifted
    obtain ⟨-, -, same⟩ := shifted
    exact (Option.some.inj same).symm

theorem scaled_nonneg (sign : quantity.isNegative = false)
    (converted : quantity.scaled shift = .ok amount) : 0 ≤ amount.val := by
  unfold scaled at converted
  split at converted
  · next fits =>
      cases converted
      obtain ⟨size, found, signed⟩ := Option.bind_eq_some_iff.mp fits
      unfold signed? at signed
      split at signed
      · rw [Option.some.injEq] at signed
        rw [← signed]
        cases minus : quantity.negative with
        | false =>
            show 0 ≤ (size : Int)
            omega
        | true =>
            -- a zero with a minus sign is zero
            have zero : quantity.mantissa = 0 := by simpa [isNegative, minus] using sign
            cases size?_eq_zero zero found
            exact Int.le_refl 0
      · contradiction
  · contradiction

/-- Whether a text is a quantity below zero. -/
def readsNegative (text : String) : Bool :=
  match parse text with
  | .ok quantity => quantity.isNegative
  | .error _ => false

end Quantity

theorem ResourceName.canonicalAmount_nonneg {name : ResourceName} {quantity : Quantity}
    {amount : Amount} (sign : quantity.isNegative = false)
    (converted : name.canonicalAmount quantity = .ok amount) : 0 ≤ amount.val := by
  unfold canonicalAmount at converted
  split at converted
  · exact Quantity.scaled_nonneg sign converted
  · exact Quantity.scaled_nonneg sign converted

/-! ## Pods -/

namespace Manifest

/-- No quantity is below zero. -/
def Quantities.NonNegative (quantities : Quantities) : Prop :=
  ∀ entry ∈ quantities.entries, Quantity.readsNegative entry.2 = false

instance (quantities : Quantities) : Decidable quantities.NonNegative :=
  inferInstanceAs (Decidable (∀ _ ∈ _, _))

/-- No requested quantity is below zero, and neither is the overhead. -/
structure PodSpec.NonNegative (spec : PodSpec) : Prop where
  containers : ∀ requests ∈ spec.containers, requests.NonNegative
  initContainers : ∀ requests ∈ spec.initContainers, requests.NonNegative
  overhead : spec.overhead.NonNegative

/-- A pod with no negative quantity. -/
def Pod.NonNegative (pod : Pod) : Prop := ∀ spec, pod.spec = some spec → spec.NonNegative

instance (spec : PodSpec) : Decidable spec.NonNegative :=
  decidable_of_iff ((∀ requests ∈ spec.containers, requests.NonNegative) ∧
      (∀ requests ∈ spec.initContainers, requests.NonNegative) ∧ spec.overhead.NonNegative)
    ⟨fun ⟨containers, initContainers, overhead⟩ => ⟨containers, initContainers, overhead⟩,
      fun positive => ⟨positive.containers, positive.initContainers, positive.overhead⟩⟩

instance (pod : Pod) : Decidable pod.NonNegative :=
  inferInstanceAs (Decidable (∀ spec ∈ pod.spec, spec.NonNegative))

theorem Quantities.NonNegative.amounts {quantities : Quantities} {list : ResourceList}
    (positive : quantities.NonNegative) (converted : quantities.amounts = .ok list) :
    list.NonNegative := by
  refine foldlM_induction (P := ResourceList.NonNegative) ?_ ResourceList.nonNegative_empty
    converted
  intro state next entry member kept step
  simp only [bind_eq_ok_iff, ResourceList.insertQuantity] at step
  obtain ⟨name, -, quantity, parsed, amount, canonical, same⟩ := step
  cases same
  have sign : quantity.isNegative = false := by
    have unsigned := positive entry member
    rwa [Quantity.readsNegative, parsed] at unsigned
  exact kept.insert (ResourceName.canonicalAmount_nonneg sign canonical)

theorem PodSpec.NonNegative.effectiveRequests {spec : PodSpec} {list : ResourceList}
    (positive : spec.NonNegative) (converted : spec.effectiveRequests = .ok list) :
    list.NonNegative := by
  simp only [PodSpec.effectiveRequests, bind_eq_ok_iff] at converted
  obtain ⟨total, summed, raised, maximal, overhead, added, same⟩ := converted
  cases same
  have sum : total.NonNegative := by
    refine foldlM_induction (P := ResourceList.NonNegative) ?_ ResourceList.nonNegative_empty summed
    intro state next requests member kept step
    obtain ⟨amounts, read, same⟩ := bind_eq_ok_iff.mp step
    cases same
    exact kept.add ((positive.containers requests member).amounts read)
  have peak : raised.NonNegative := by
    refine foldlM_induction (P := ResourceList.NonNegative) ?_ sum maximal
    intro state next requests member kept step
    obtain ⟨amounts, read, same⟩ := bind_eq_ok_iff.mp step
    cases same
    exact kept.maxWith ((positive.initContainers requests member).amounts read)
  exact peak.add (positive.overhead.amounts added)

/-- A running pod without negative quantities takes nothing negative from its node. -/
theorem Pod.NonNegative.requests_nonNegative {pod : Pod} {workload : Workload}
    (positive : pod.NonNegative) (converted : pod.toWorkload = .ok workload) :
    workload.requests.NonNegative := by
  cases stated : pod.spec with
  | none =>
      unfold Pod.toWorkload at converted
      rw [stated] at converted
      cases converted
      exact ResourceList.nonNegative_empty
  | some spec =>
      exact (positive spec stated).effectiveRequests
        (Pod.effectiveRequests_of_toWorkload stated converted)

end Manifest

end Headroom
