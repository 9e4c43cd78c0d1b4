import Headroom.Proofs.Placement.Relaxation
import Headroom.Proofs.Snapshot.Listing
/-!
# What running pods leave

A node with nothing bound to it leaves all that it offers. While no pod has a negative quantity, a
record never leaves more than that, and every further pod leaves at most what was left before
(`remaining_le_of_nonNegative_pods`). Nothing between a listing and a snapshot asks for the sign of
a quantity, though estimates for a profile do: a pod with a negative quantity makes room on its
node.
-/

namespace Headroom

variable {nodes : List Manifest.Node} {early late pods : List Manifest.Pod} {pod : Manifest.Pod}
  {snapshot after : Snapshot} {node : Node} {resource : ResourceName} {workloads : List Workload}
  {ahead behind : List (String × Workload)} {entry : String × Workload}

/-! ## The books of one node -/

namespace Node

/-- Of each resource, the first node leaves at most what the second leaves. -/
def LeavesAtMost (charged record : Node) : Prop :=
  ∀ resource, (charged.remaining resource).val ≤ (record.remaining resource).val

/-- More is left than is offered when the books are below zero, unless no amount is larger than what
is offered. -/
theorem remaining_le_allocatable_iff :
    (node.remaining resource).val ≤ (node.allocatable.amount resource).val ↔
      0 ≤ (node.allocated.amount resource).val ∨
        node.allocatable.amount resource = .greatest := by
  generalize offered : node.allocatable.amount resource = amount
  have lowest := amount.least_le
  have highest := amount.le_greatest
  simp only [remaining, offered, Amount.sub, Amount.clamp, Amount.ext_iff, Amount.greatest]
  omega

theorem nonNegative_allocated_bindAll (start : node.allocated.NonNegative)
    (positive : ∀ workload ∈ workloads, workload.requests.NonNegative) :
    (node.bindAll workloads).allocated.NonNegative := by
  induction workloads generalizing node with
  | nil => exact start
  | cons workload rest ih =>
      have first : (node.bind workload).allocated.NonNegative :=
        start.add (positive workload List.mem_cons_self)
      exact ih first fun other member => positive other (List.mem_cons_of_mem _ member)

end Node

/-! ## The books of a snapshot -/

namespace Snapshot

/-- With one more workload, no node leaves more. The others may ask for anything. -/
theorem remaining_bindAll_le (positive : entry.2.requests.NonNegative) (snapshot : Snapshot) :
    List.Forall₂ Node.LeavesAtMost (snapshot.bindAll (ahead ++ entry :: behind)).nodes
      (snapshot.bindAll (ahead ++ behind)).nodes := by
  have same_length : (snapshot.bindAll (ahead ++ entry :: behind)).names.length =
      (snapshot.bindAll (ahead ++ behind)).names.length := by
    rw [names_bindAll, names_bindAll]
  rw [names, names, List.length_map, List.length_map] at same_length
  refine List.forall₂_iff_get.mpr ⟨same_length, fun position within bound => ?_⟩
  -- both records are made of one node
  have record := nodes_bindAll snapshot (ahead ++ behind) position
  have charged := nodes_bindAll snapshot (ahead ++ entry :: behind) position
  rw [← share, share_append] at record charged
  rw [share_cons] at charged
  rw [List.getElem?_eq_getElem bound] at record
  rw [List.getElem?_eq_getElem within] at charged
  obtain ⟨node, stands, made⟩ := Option.map_eq_some_iff.mp record.symm
  rw [stands, Option.map_some, Option.some.injEq] at charged
  rw [List.get_eq_getElem, List.get_eq_getElem, charged, ← made]
  split
  · exact (node.roomier_bindAll positive _ _).remaining
  · exact fun _ => Int.le_refl _

theorem nonNegative_allocated_of_build (built : build nodes pods = .ok snapshot)
    (positive : ∀ pod ∈ pods, pod.Counts nodes → pod.NonNegative) :
    ∀ record ∈ snapshot.nodes, record.allocated.NonNegative := by
  intro record listed
  obtain ⟨records, converted, rfl, -⟩ := eq_bindAll_of_build built
  obtain ⟨position, stands⟩ := List.mem_iff_getElem?.mp listed
  rw [nodes_bindAll] at stands
  obtain ⟨blank, here, rfl⟩ := Option.map_eq_some_iff.mp stands
  obtain ⟨manifest, -, made⟩ :=
    exists_mem_of_mem_mapM converted (List.mem_of_getElem? here)
  obtain ⟨-, -, unallocated, -⟩ := Node.ofManifest_eq_ok made
  refine Node.nonNegative_allocated_bindAll ?_ fun workload member => ?_
  · rw [unallocated]
    exact ResourceList.nonNegative_empty
  · obtain ⟨entry, found, rfl⟩ := List.mem_map.mp member
    exact Manifest.Pod.requests_nonNegative_of_mem_entries positive (List.mem_of_mem_filter found)

/-- Any pod can be left out of a listing, and there is a snapshot still. -/
theorem exists_build_of_leave_out (built : build nodes (early ++ pod :: late) = .ok after) :
    ∃ before, build nodes (early ++ late) = .ok before := by
  obtain ⟨converts, counting⟩ := exists_build_eq_ok_iff.mp ⟨after, built⟩
  refine exists_build_eq_ok_iff.mpr ⟨converts, fun other member => counting other ?_⟩
  rw [List.mem_append] at member ⊢
  exact member.imp_right (List.mem_cons_of_mem pod)

theorem remaining_build_le (positive : pod.Counts nodes → pod.NonNegative)
    {before : Snapshot} (built : build nodes (early ++ pod :: late) = .ok after)
    (rebuilt : build nodes (early ++ late) = .ok before) :
    List.Forall₂ Node.LeavesAtMost after.nodes before.nodes := by
  obtain ⟨records, converted, rfl, -⟩ := eq_bindAll_of_build built
  obtain ⟨again, reconverted, rfl, -⟩ := eq_bindAll_of_build rebuilt
  rw [converted] at reconverted
  cases reconverted
  rw [Manifest.Pod.entries_append, Manifest.Pod.entries_append]
  by_cases counts : pod.Counts nodes
  · obtain ⟨-, convert⟩ := exists_build_eq_ok_iff.mp ⟨_, built⟩
    obtain ⟨entry, taken⟩ := Manifest.Pod.exists_entry_eq_ok_iff.mpr
      (convert pod (by simp) counts)
    have asked := (positive counts).requests_nonNegative (counts.runsAs taken).1.converted
    rw [Manifest.Pod.entries_cons_of_counts counts taken]
    exact remaining_bindAll_le asked (ofNodes records)
  · rw [Manifest.Pod.entries_cons_of_not_counts counts, List.forall₂_same]
    exact fun _ _ _ => Int.le_refl _

end Snapshot

/-- **Running pods make no room, unless one of them has a negative quantity.** A record leaves no
more than its node offers as long as its books are not below zero, and they never are while no pod
that counts has a negative quantity. Then each single pod leaves at most what would be left without
it. Only the sign of that pod matters for this, not those of the others. -/
theorem remaining_le_of_nonNegative_pods (built : Snapshot.build nodes pods = .ok snapshot) :
    (∀ record ∈ snapshot.nodes, ∀ resource,
      ((record.remaining resource).val ≤ (record.allocatable.amount resource).val ↔
        0 ≤ (record.allocated.amount resource).val ∨
          record.allocatable.amount resource = .greatest)) ∧
    ((∀ pod ∈ pods, pod.Counts nodes → pod.NonNegative) → ∀ record ∈ snapshot.nodes, ∀ resource,
      (record.remaining resource).val ≤ (record.allocatable.amount resource).val) ∧
    ∀ early pod late, pods = early ++ pod :: late → (pod.Counts nodes → pod.NonNegative) →
      ∃ before, Snapshot.build nodes (early ++ late) = .ok before ∧
        List.Forall₂ Node.LeavesAtMost snapshot.nodes before.nodes := by
  refine ⟨fun _ _ _ => Node.remaining_le_allocatable_iff, ?_, ?_⟩
  · intro positive record listed resource
    have booked := Snapshot.nonNegative_allocated_of_build built positive record listed
    exact Node.remaining_le_allocatable_iff.mpr (.inl (booked.amount resource))
  · rintro early pod late rfl positive
    obtain ⟨before, rebuilt⟩ := Snapshot.exists_build_of_leave_out built
    exact ⟨before, rebuilt, Snapshot.remaining_build_le positive built rebuilt⟩

namespace Sample

def oneCore : List Manifest.Node :=
  [{ name := some "solo", allocatable := Dict.insert ∅ "cpu" "1" }]

/-- A pod that asks for half a core, and one that gives a whole one back. -/
def half : Manifest.Pod := askingPod none "solo" "500m"

def refund : Manifest.Pod := askingPod none "solo" "-1"

/-- The pod in front takes its share, whatever the pod behind it does. -/
theorem remaining_le_of_nonNegative_pods_half :
    ∃ before after, Snapshot.build oneCore [refund] = .ok before ∧
      Snapshot.build oneCore [half, refund] = .ok after ∧ half.NonNegative ∧
        List.Forall₂ Node.LeavesAtMost after.nodes before.nodes := by
  obtain ⟨after, built⟩ : ∃ after, Snapshot.build oneCore [half, refund] = .ok after :=
    ⟨_, by rfl⟩
  have positive : half.NonNegative := by decide
  obtain ⟨-, -, leave_out⟩ := remaining_le_of_nonNegative_pods built
  obtain ⟨before, rebuilt, less⟩ := leave_out [] half [refund] rfl fun _ => positive
  exact ⟨before, after, rebuilt, built, positive, less⟩

/-- A node of one core leaves two cores when a running pod asks for minus one. -/
theorem remaining_gt_allocatable_refund :
    ∃ before after record charged, Snapshot.build oneCore [] = .ok before ∧
      Snapshot.build oneCore [refund] = .ok after ∧
        before.nodes = [record] ∧ after.nodes = [charged] ∧
          (charged.allocatable.amount .cpu).val = 1000 ∧
            (record.remaining .cpu).val = 1000 ∧ (charged.remaining .cpu).val = 2000 :=
  ⟨_, _, _, _, by rfl, by rfl, by rfl, by rfl, by decide, by decide, by decide⟩

end Sample

end Headroom
