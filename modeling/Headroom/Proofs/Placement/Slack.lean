import Headroom.Proofs.Placement.Capacity
import Headroom.Proofs.Placement.Uniform
import Headroom.Proofs.Snapshot.Build
/-!
# Slack

A workload that asks for less, a node with more to give and a view with fewer workloads in it are
each at least as good as what they are compared with. While no workload requires company, a chain
that accepts a node still accepts it when all three have changed for the better (`Accepts.mono`).
Workloads that require company are left out: one that is removed may be the one that they need.
-/

namespace Headroom

variable {view calmer : ClusterView} {workload milder other : Workload} {node roomier host : Node}
  {rules : List StandardRule} {allocatable allocated : ResourceList} {runningPods : Nat}
  {early late : List Workload}

/-! ## Comparisons -/

/-- The second workload asks for no more than the first, and looks the same to others. -/
structure Workload.Milder (workload milder : Workload) : Prop where
  labels_eq : milder.labels = workload.labels
  tolerates : ∀ taint, workload.tolerates taint = true → milder.tolerates taint = true
  /-- An amount that is still asked for is not above one that was. A zero asks for nothing, so it
  does not stand for an amount: even where nothing is left there is room for it. -/
  requests : ∀ resource less, milder.requests.get? resource = some less → less.val ≠ 0 →
    ∃ more, workload.requests.get? resource = some more ∧ more.val ≠ 0 ∧ less.val ≤ more.val
  nodeSelector : ∀ key value, milder.nodeSelector.get? key = some value →
    workload.nodeSelector.get? key = some value
  nodeAffinity_eq : milder.nodeAffinity = workload.nodeAffinity
  affinityTerms : milder.affinityTerms ⊆ workload.affinityTerms

/-- The second node keeps no workload off that the first lets in, and is the same to others. -/
structure Node.Roomier (node roomier : Node) : Prop where
  name_eq : roomier.name = node.name
  labels_eq : roomier.labels = node.labels
  placed_eq : roomier.placed = node.placed
  consumed_eq : roomier.consumed = node.consumed
  cordoned : roomier.cordoned = true → node.cordoned = true
  taints : roomier.taints ⊆ node.taints
  isFull : node.isFull = false → roomier.isFull = false
  remaining : ∀ resource, (node.remaining resource).val ≤ (roomier.remaining resource).val

/-- The second view hosts nothing that the first does not host in the same domains. -/
def ClusterView.Calmer (view calmer : ClusterView) : Prop :=
  ∀ host other, calmer.Hosts host other →
    ∃ before, view.Hosts before other ∧ host.labels = before.labels

theorem Workload.Milder.refl (workload : Workload) : workload.Milder workload where
  labels_eq := rfl
  tolerates := fun _ tolerated => tolerated
  requests := fun _ requested listed asked => ⟨requested, listed, asked, Int.le_refl _⟩
  nodeSelector := fun _ _ selected => selected
  nodeAffinity_eq := rfl
  affinityTerms := fun _ declared => declared

theorem Node.Roomier.refl (node : Node) : node.Roomier node where
  name_eq := rfl
  labels_eq := rfl
  placed_eq := rfl
  consumed_eq := rfl
  cordoned := fun cordoned => cordoned
  taints := fun _ listed => listed
  isFull := fun room => room
  remaining := fun _ => Int.le_refl _

theorem ClusterView.Calmer.refl (view : ClusterView) : view.Calmer view :=
  fun host _ hosts => ⟨host, hosts, rfl⟩

/-! ## The books of a node -/

theorem rel_le_refl (offered : Option Amount) :
    Option.Rel (fun low high : Amount => low.val ≤ high.val) offered offered := by
  cases offered with
  | none => exact .none
  | some amount => exact .some (Int.le_refl amount.val)

/-- A node is roomier when every resource that it lists is raised, and less is booked on it. A limit
where there was none would be a restriction, so the same resources are listed. -/
theorem Node.Roomier.of_books
    (offers : ∀ resource, Option.Rel (fun low high : Amount => low.val ≤ high.val)
      (node.allocatable.get? resource) (allocatable.get? resource))
    (books : ∀ resource, (allocated.amount resource).val ≤ (node.allocated.amount resource).val)
    (counts : runningPods ≤ node.runningPods) :
    node.Roomier { node with allocatable, allocated, runningPods } :=
  { Roomier.refl node with
    isFull := by
      simp only [Node.isFull, Option.any_eq_false, decide_eq_false_iff_not, Int.not_lt]
      intro room high raised
      have limits := offers .pods
      rw [raised] at limits
      cases declared : node.allocatable.get? .pods with
      | none =>
          rw [declared] at limits
          contradiction
      | some low =>
          rw [declared, Option.rel_some_some] at limits
          have below := room low declared
          simp only [Amount.clamp, podCount] at below ⊢
          omega
    remaining := by
      intro resource
      have raised : (node.allocatable.amount resource).val ≤ (allocatable.amount resource).val := by
        have pair := offers resource
        rw [ResourceList.amount, ResourceList.amount]
        generalize node.allocatable.get? resource = low at pair ⊢
        generalize allocatable.get? resource = high at pair ⊢
        cases pair with
        | some raised => exact raised
        | none => exact Int.le_refl _
      have booked := books resource
      simp only [Node.remaining, Amount.sub, Amount.clamp]
      omega }

/-- A sum that stops at the bounds is monotone in where it starts, whatever is added. -/
theorem foldl_add_le {low high : Amount} (below : low.val ≤ high.val) (workloads : List Workload)
    (resource : ResourceName) :
    (workloads.foldl (fun total workload => total.add (workload.requests.amount resource))
        low).val ≤
      (workloads.foldl (fun total workload => total.add (workload.requests.amount resource))
        high).val := by
  induction workloads generalizing low high with
  | nil => exact below
  | cons workload rest ih =>
      refine ih ?_
      simp only [Amount.add, Amount.clamp]
      omega

/-- A node is roomier without one of the workloads that run on it, if that one asks for nothing
negative. What the others ask for does not matter: their sums start lower. -/
theorem Node.roomier_bindAll (nonnegative : workload.NonNegative) (node : Node)
    (early late : List Workload) :
    (node.bindAll (early ++ workload :: late)).Roomier (node.bindAll (early ++ late)) := by
  rw [bindAll_eq, bindAll_eq node (early ++ late)]
  refine Roomier.of_books (fun _ => rel_le_refl _) (fun resource => ?_) ?_
  · rw [ResourceList.amount_foldl_add, ResourceList.amount_foldl_add, List.foldl_append,
      List.foldl_append, List.foldl_cons]
    refine foldl_add_le ?_ late resource
    have asked := nonnegative.request_nonneg resource
    rw [Workload.request] at asked
    generalize early.foldl _ _ = booked
    have highest := booked.le_greatest
    have lowest := booked.least_le
    simp only [Amount.add, Amount.clamp]
    omega
  · show node.runningPods + (early ++ late).length ≤
      node.runningPods + (early ++ workload :: late).length
    rw [List.length_append, List.length_append, List.length_cons]
    omega

/-! ## Rules about one node -/

/-- The rules that look at a node alone have no more against it. -/
theorem Node.Passes.mono (passes : node.Passes rules workload) (room : node.Roomier roomier)
    (mild : workload.Milder milder) : roomier.Passes rules milder where
  closure := by
    intro member
    obtain ⟨unused, opened⟩ := closure?_eq_none_iff.mp (passes.closure member)
    refine closure?_eq_none_iff.mpr ⟨room.consumed_eq.trans unused, ?_⟩
    intro cordoned
    exact mild.tolerates cordonTaint (opened (room.cordoned cordoned))
  shortage := by
    intro member
    obtain ⟨open_slot, fits⟩ := shortage?_eq_none_iff.mp (passes.shortage member)
    refine shortage?_eq_none_iff.mpr ⟨room.isFull open_slot, ?_⟩
    intro resource less listed amount asked
    -- neither request is zero, so what is left decides about both
    obtain ⟨more, was_listed, was_asked, at_most⟩ := mild.requests resource less listed asked
    have fitted := fits resource more was_listed amount was_asked
    have left := room.remaining resource
    omega
  mismatch := by
    intro member
    obtain ⟨selected, eligible⟩ := mismatch?_eq_none_iff.mp (passes.mismatch member)
    rw [mismatch?_eq_none_iff, room.labels_eq, mild.nodeAffinity_eq]
    refine ⟨?_, eligible⟩
    intro key value wanted
    exact selected key value (mild.nodeSelector key value wanted)
  untolerated := by
    intro member
    have tolerated := untolerated?_eq_none_iff.mp (passes.untolerated member)
    rw [untolerated?_eq_none_iff]
    intro taint listed blocking
    exact mild.tolerates taint (tolerated taint (room.taints listed) blocking)

/-! ## The workloads around -/

theorem Workload.Bears.mono (bears : workload.Bears node host other)
    (mild : workload.Milder milder) : milder.Bears node host other where
  unopposed := by
    intro term declared
    exact bears.unopposed term (mild.affinityTerms declared)
  unrepelled := by
    intro term declared
    rw [mild.labels_eq]
    exact bears.unrepelled term declared

namespace ClusterView

theorem Welcomes.mono (welcomes : view.Welcomes workload node)
    (solitary : ∀ term ∈ workload.affinityTerms, term.kind ≠ .required)
    (calm : view.Calmer calmer) (mild : workload.Milder milder)
    (labels_eq : roomier.labels = node.labels) : calmer.Welcomes milder roomier := by
  have still_solitary : ∀ term ∈ milder.affinityTerms, term.kind ≠ .required := by
    intro term declared
    exact solitary term (mild.affinityTerms declared)
  rw [welcomes_iff_bears solitary] at welcomes
  rw [welcomes_iff_bears still_solitary]
  intro host other hosts
  obtain ⟨before, hosted, same⟩ := calm host other hosts
  exact ((welcomes before other hosted).of_labels_eq labels_eq same).mono mild

/-- What is accepted stays so when everything has changed for the better. -/
theorem Accepts.mono (accepts : view.Accepts rules workload node)
    (solitary : ∀ term ∈ workload.affinityTerms, term.kind ≠ .required)
    (calm : view.Calmer calmer) (room : node.Roomier roomier) (mild : workload.Milder milder) :
    calmer.Accepts rules milder roomier := by
  rw [accepts_iff] at accepts ⊢
  obtain ⟨passes, welcomes⟩ := accepts
  refine ⟨passes.mono room mild, ?_⟩
  intro member
  exact (welcomes member).mono solitary calm mild room.labels_eq

end ClusterView

end Headroom
