import Headroom.Proofs.Placement.Run
import Headroom.Proofs.Resource.Sum
/-!
# Exact capacity

Sums and differences of amounts stop at the bounds, so the books of a node are wrong near them. What
fits is the same as in exact arithmetic all the same (`exact_capacity`): while no request is
negative, a sum stops only where it is above all that a node can offer, and a difference only where
nothing at all is left.
-/

namespace Headroom

/-- A workload that is bound to a node, and how. -/
inductive Binding where
  | running (workload : Workload)
  | placed (workload : Workload)
deriving DecidableEq

/-- The workload that is bound. -/
def Binding.workload : Binding → Workload
  | running workload => workload
  | placed workload => workload

variable {node blank : Node} {bindings : List Binding} {workload proposal : Workload}
  {resource : ResourceName}

/-! ## Requests -/

namespace Workload

/-- What a workload asks of a resource. -/
def request (workload : Workload) (resource : ResourceName) : Int :=
  (workload.requests.amount resource).val

/-- A workload that asks for nothing negative. -/
def NonNegative (workload : Workload) : Prop :=
  ∀ entry ∈ workload.requests.entries, 0 ≤ entry.2.val

instance : Decidable workload.NonNegative :=
  inferInstanceAs (Decidable (∀ _ ∈ _, _))

theorem request_eq_of_get?_eq_some {requested : Amount}
    (listed : workload.requests.get? resource = some requested) :
    workload.request resource = requested.val := by
  rw [request, ResourceList.amount, listed]
  rfl

theorem request_eq_zero_of_get?_eq_none (unlisted : workload.requests.get? resource = none) :
    workload.request resource = 0 := by
  rw [request, ResourceList.amount, unlisted]
  rfl

theorem NonNegative.request_nonneg (nonnegative : workload.NonNegative) (resource : ResourceName) :
    0 ≤ workload.request resource := by
  have listed : workload.requests.NonNegative := nonnegative
  exact listed.amount resource

end Workload

/-- What a list of bound workloads takes of a resource in total, in exact arithmetic. -/
def demand : List Binding → ResourceName → Int
  | [], _ => 0
  | binding :: rest, resource => binding.workload.request resource + demand rest resource

theorem demand_append_placed (bindings : List Binding) (proposal : Workload)
    (resource : ResourceName) :
    demand (bindings ++ [.placed proposal]) resource =
      demand bindings resource + proposal.request resource := by
  induction bindings with
  | nil =>
      show proposal.request resource + 0 = 0 + proposal.request resource
      omega
  | cons binding rest ih =>
      rw [List.cons_append, demand, ih, demand, Int.add_assoc]

theorem demand_nonneg (nonnegative : ∀ binding ∈ bindings, binding.workload.NonNegative)
    (resource : ResourceName) : 0 ≤ demand bindings resource := by
  induction bindings with
  | nil => exact Int.le_refl 0
  | cons binding rest ih =>
      have first := (nonnegative binding List.mem_cons_self).request_nonneg resource
      have others := ih fun other member => nonnegative other (List.mem_cons_of_mem _ member)
      rw [demand]
      omega

/-! ## The books of a node -/

namespace Node

/-- The node with one more workload bound to it. -/
def take (node : Node) : Binding → Node
  | .running workload => node.bind workload
  | .placed workload => node.place workload

/-- The node with some workloads bound to it, one after the other. -/
def takeAll (node : Node) (bindings : List Binding) : Node := bindings.foldl take node

theorem takeAll_append_placed (node : Node) (bindings : List Binding) (proposal : Workload) :
    node.takeAll (bindings ++ [.placed proposal]) = (node.takeAll bindings).place proposal := by
  rw [takeAll, List.foldl_append]
  rfl

@[simp] theorem allocatable_takeAll :
    (node.takeAll bindings).allocatable = node.allocatable := by
  induction bindings generalizing node with
  | nil => rfl
  | cons binding rest ih =>
      show ((node.take binding).takeAll rest).allocatable = node.allocatable
      rw [ih]
      cases binding <;> rfl

/-- Every workload that is bound counts as one pod, running or not. -/
theorem podCount_takeAll :
    (node.takeAll bindings).podCount = node.podCount + bindings.length := by
  induction bindings generalizing node with
  | nil => rfl
  | cons binding rest ih =>
      have step : (node.take binding).podCount = node.podCount + 1 := by
        cases binding with
        | running workload => exact podCount_bind node workload
        | placed workload => exact podCount_place node workload
      show ((node.take binding).takeAll rest).podCount = _
      rw [ih, step, List.length_cons]
      omega

theorem allocated_take (binding : Binding) :
    (node.take binding).allocated = node.allocated.add binding.workload.requests := by
  cases binding <;> rfl

/-- The books are exact up to the largest amount, where they stay. -/
theorem allocated_takeAll (nonnegative : ∀ binding ∈ bindings, binding.workload.NonNegative)
    (start : 0 ≤ (node.allocated.amount resource).val) :
    ((node.takeAll bindings).allocated.amount resource).val =
      min ((node.allocated.amount resource).val + demand bindings resource)
        9223372036854775807 := by
  induction bindings generalizing node with
  | nil =>
      have highest := (node.allocated.amount resource).le_greatest
      show (node.allocated.amount resource).val = min (_ + 0) _
      omega
  | cons binding rest ih =>
      have first := (nonnegative binding List.mem_cons_self).request_nonneg resource
      have others := fun other member => nonnegative other (List.mem_cons_of_mem binding member)
      have total := demand_nonneg others resource
      have step : ((node.take binding).allocated.amount resource).val =
          min ((node.allocated.amount resource).val + binding.workload.request resource)
            9223372036854775807 := by
        rw [allocated_take, ResourceList.amount_add]
        show max _ (min (_ + binding.workload.request resource) _) = _
        omega
      -- a sum that has stopped stays where it is, since nothing negative follows
      show (((node.take binding).takeAll rest).allocated.amount resource).val = _
      rw [ih others (by omega), step, demand]
      omega

/-- The remainder decides as exact arithmetic does: where the sum stopped nothing is left, and
neither is where the difference stops. -/
theorem le_remaining_takeAll_iff (unallocated : blank.allocated.amount resource = .zero)
    (nonnegative : ∀ binding ∈ bindings, binding.workload.NonNegative) {requested : Int}
    (asked : 0 < requested) :
    requested ≤ ((blank.takeAll bindings).remaining resource).val ↔
      demand bindings resource + requested ≤ (blank.allocatable.amount resource).val := by
  have books : ((blank.takeAll bindings).allocated.amount resource).val =
      min (demand bindings resource) 9223372036854775807 := by
    have start : (blank.allocated.amount resource).val = 0 := by
      rw [unallocated]
      rfl
    rw [allocated_takeAll nonnegative (by omega), start, Int.zero_add]
  have total := demand_nonneg nonnegative resource
  have highest := (blank.allocatable.amount resource).le_greatest
  rw [remaining, allocatable_takeAll]
  show requested ≤ max _ (min (_ - ((blank.takeAll bindings).allocated.amount resource).val) _) ↔ _
  -- both sides fail when the sum has stopped: what is asked for is positive
  rw [books]
  omega

/-- A node has room for one more workload in exact arithmetic. -/
structure Room (blank : Node) (bindings : List Binding) (proposal : Workload) : Prop where
  podFits : ∀ limit, blank.allocatable.get? .pods = some limit →
    (blank.podCount : Int) + bindings.length + 1 ≤ limit.val
  requestsFit : ∀ resource, resource ≠ .pods → proposal.request resource ≠ 0 →
    demand bindings resource + proposal.request resource ≤ (blank.allocatable.amount resource).val

/-- Nothing is short on a node just when there is room in exact arithmetic. -/
theorem shortage?_takeAll_eq_none_iff
    (unallocated : ∀ resource, blank.allocated.amount resource = .zero)
    (nonnegative : ∀ binding ∈ bindings, binding.workload.NonNegative)
    (counted : blank.podCount + bindings.length < 9223372036854775807)
    (positive : proposal.NonNegative) :
    (blank.takeAll bindings).shortage? proposal = none ↔ blank.Room bindings proposal := by
  have exact_fit : ∀ resource, proposal.request resource ≠ 0 →
      (proposal.request resource ≤ ((blank.takeAll bindings).remaining resource).val ↔
        demand bindings resource + proposal.request resource ≤
          (blank.allocatable.amount resource).val) := by
    intro resource asked
    have floor := positive.request_nonneg resource
    exact le_remaining_takeAll_iff (unallocated resource) nonnegative (by omega)
  have pods : (blank.takeAll bindings).Counted := by
    intro _
    rw [podCount_takeAll]
    exact counted
  rw [shortage?_eq_none_iff, isFull_eq_false_iff pods, allocatable_takeAll, podCount_takeAll,
    Int.natCast_add]
  constructor
  · rintro ⟨podFits, requestsFit⟩
    refine ⟨podFits, fun resource other asked => (exact_fit resource asked).mp ?_⟩
    cases listed : proposal.requests.get? resource with
    | none => exact absurd (Workload.request_eq_zero_of_get?_eq_none listed) asked
    | some requested =>
        rw [Workload.request_eq_of_get?_eq_some listed] at asked ⊢
        exact requestsFit resource requested listed other asked
  · rintro ⟨podFits, requestsFit⟩
    refine ⟨podFits, fun resource requested listed other asked => ?_⟩
    rw [← Workload.request_eq_of_get?_eq_some listed] at asked ⊢
    exact (exact_fit resource asked).mpr (requestsFit resource other asked)

end Node

/-! ## Decisions and runs -/

/-- **Exact capacity.** Take a node on which nothing was allocated, and any workloads bound to it
since, none of them with a negative request. The rule on resources lets a proposal in just when
there is room for it in exact arithmetic. A run of the standard chain leaves such a node as it was,
or with one proposal more, for which there was room: then no resource that the proposal asks for is
overdrawn, and neither are the pods. -/
theorem exact_capacity (unallocated : ∀ resource, blank.allocated.amount resource = .zero)
    (nonnegative : ∀ binding ∈ bindings, binding.workload.NonNegative)
    (counted : blank.podCount + bindings.length < 9223372036854775807) :
    (∀ (view : ClusterView) (notes : Notes) (proposal : Workload), proposal.NonNegative →
      ((Rule.standard .resourceFit).judge view notes proposal (blank.takeAll bindings) = .success ↔
        blank.Room bindings proposal)) ∧
    ∀ (snapshot : Snapshot) (index : TopologyIndex) (batch : List Workload) (position : Nat)
      (final : Node), (∀ workload ∈ batch, workload.NonNegative) →
      snapshot.nodes[position]? = some (blank.takeAll bindings) →
      (snapshot.afterRun index batch).nodes[position]? = some final →
      final = blank.takeAll bindings ∨ ∃ proposal ∈ batch,
        final = blank.takeAll (bindings ++ [.placed proposal]) ∧
        (∀ limit, final.allocatable.get? .pods = some limit → (final.podCount : Int) ≤ limit.val) ∧
        ∀ resource, resource ≠ .pods → proposal.request resource ≠ 0 →
          demand (bindings ++ [.placed proposal]) resource ≤
            (final.allocatable.amount resource).val := by
  constructor
  · intro view notes proposal positive
    rw [← Node.shortage?_takeAll_eq_none_iff unallocated nonnegative counted positive]
    simp only [Rule.judge, StandardRule.obstacle?]
    cases (blank.takeAll bindings).shortage? proposal <;> simp
  · intro snapshot index batch position final positive stood found
    have all : ServedAll StandardRule.all batch (Session.start snapshot index batch).snapshot.nodes
        (snapshot.afterRun index batch).nodes :=
      Session.servedAll_placeAll (by decide)
    cases all.served position (blank.takeAll bindings) final stood found with
    | idle => exact .inl rfl
    | @used proposal listed passes =>
        have room := (Node.shortage?_takeAll_eq_none_iff unallocated nonnegative counted
          (positive proposal listed)).mp (passes.shortage (by decide))
        rw [← Node.takeAll_append_placed]
        refine .inr ⟨proposal, listed, rfl, ?_, ?_⟩
        · intro limit declared
          rw [Node.allocatable_takeAll] at declared
          rw [Node.takeAll_append_placed, Node.podCount_place, Node.podCount_takeAll]
          exact room.podFits limit declared
        · intro resource other asked
          rw [demand_append_placed, Node.allocatable_takeAll]
          exact room.requestsFit resource other asked

namespace Sample

/-- A node that offers all the memory that can be counted. -/
def vault : Node :=
  { name := "vault"
    allocatable := (ResourceList.cpuMemory { val := 1 } .greatest).insert .pods { val := 3 } }

def hoard : Workload :=
  { name := "hoard", requests := .cpuMemory .zero { val := 9223372036854775806 } }

/-- A workload that asks for no memory. -/
def clerk : Workload := { name := "clerk", requests := .cpuMemory { val := 1 } .zero }

/-- Together they ask for almost twice the memory that can be counted. -/
def hoards : List Binding := [.running hoard, .running hoard]

def overdrawn : Snapshot := { nodes := [vault.takeAll hoards] }

/-- Overdrawn memory keeps out those who ask for memory, and nobody else. -/
theorem exact_capacity_vault :
    vault.Room hoards clerk ∧ ¬ vault.Room hoards hoard ∧
      (overdrawn.afterRun {} [clerk]).nodes = [vault.takeAll (hoards ++ [.placed clerk])] ∧
      demand (hoards ++ [.placed clerk]) .cpu ≤ (vault.allocatable.amount .cpu).val := by
  have exact_fit := @exact_capacity vault hoards (fun _ => rfl) (by decide) (by decide)
  have placed : (overdrawn.afterRun {} [clerk]).nodes =
      [vault.takeAll (hoards ++ [.placed clerk])] := by rfl
  refine ⟨?_, ?_, placed, ?_⟩
  · exact (exact_fit.1 zones {} clerk (by decide)).mp (by rfl)
  · rw [← exact_fit.1 zones {} hoard (by decide)]
    decide
  · have found : (overdrawn.afterRun {} [clerk]).nodes[0]? =
        some (vault.takeAll (hoards ++ [.placed clerk])) := by
      rw [placed]
      rfl
    rcases exact_fit.2 overdrawn {} [clerk] 0 _ (by decide) rfl found with
      same | ⟨proposal, listed, -, -, fits⟩
    · exact absurd (congrArg Node.consumed same) (by decide)
    · rw [List.mem_singleton] at listed
      subst listed
      exact fits .cpu (by decide) (by decide)

end Sample

end Headroom
