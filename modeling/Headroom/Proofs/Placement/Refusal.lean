import Headroom.Proofs.Admission.Malformed
import Headroom.Proofs.Placement.Order
import Headroom.Proofs.Placement.Prefix
/-!
# Runs that a malformed workload stops

The search for a node fails only before it looks at any node, and then because of the workload alone
(`locate_eq_error_iff`). So a run fails at the first malformed workload of its batch if it gets
there, and never else (`simulate_eq_error_iff`): if a workload before it fits nowhere, the run has
ended without finding out.
-/

namespace Headroom

variable {start session : Session} {placed rest : List Workload} {workload : Workload}
  {rules : List StandardRule} {rejection : Rejection} {outcome : Except Failure Unit}
  {final : Session}

namespace Session

/-- A search fails as its chain objects before it, never because of a node. -/
theorem locate_eq_error_iff :
    session.locate (rules.map .standard) workload = .error rejection ↔
      FirstFailure (StandardRule.vet workload) rules rejection := by
  rw [← @Chain.prepare_eq_error_iff session.view, locate]
  cases ready : Chain.prepare (rules.map .standard) session.view workload with
  | error objection =>
      rw [error_bind, Except.error.injEq, Except.error.injEq]
  | ok prepared =>
      obtain ⟨place, found⟩ := exists_search_eq_ok session.snapshot.nodes 0
        fun other rejection => Prepared.judge_isError_eq_false ready
      rw [ok_bind, found]
      simp

theorem locate_standard_eq_error_iff :
    session.locate .standard workload = .error rejection ↔ workload.RefusedWith rejection := by
  rw [← @Chain.prepare_standard_eq_error_iff session.view, Chain.standard, locate_eq_error_iff,
    Chain.prepare_eq_error_iff]

/-- No malformed workload is ever placed. -/
theorem Reaches.not_malformed (reached : Reaches .standard start placed session) :
    ∀ workload ∈ placed, ¬ workload.Malformed := by
  induction reached with
  | start => simp
  | @place placed session workload position node _ found ih =>
      rw [List.forall_mem_append]
      refine ⟨ih, List.forall_mem_singleton.mpr fun malformed => ?_⟩
      obtain ⟨rejection, refused⟩ := Workload.exists_refusedWith_iff.mpr malformed
      rw [locate_standard_eq_error_iff.mpr refused] at found
      contradiction

/-- A run fails at the first workload that is left, and only if that is malformed. -/
theorem Ends.eq_error_iff {turn : Nat} (ends : Ends .standard turn session rest final outcome)
    {failure : Failure} :
    outcome = .error failure ↔ ∃ workload rejection, rest.head? = some workload ∧
      workload.RefusedWith rejection ∧ failure = .admission workload.name rejection := by
  cases ends with
  | complete => simp
  | unplaceable nowhere =>
      refine iff_of_false (by simp) ?_
      rintro ⟨workload, rejection, first, refused, -⟩
      rw [List.head?_cons, Option.some.injEq] at first
      rw [first, locate_standard_eq_error_iff.mpr refused] at nowhere
      contradiction
  | @malformed workload rest rejection objects =>
      have refused := locate_standard_eq_error_iff.mp objects
      constructor
      · intro failed
        exact ⟨workload, rejection, rfl, refused, (Except.error.inj failed).symm⟩
      · rintro ⟨other, objection, first, again, rfl⟩
        rw [List.head?_cons, Option.some.injEq] at first
        subst first
        have same := objects.symm.trans (locate_standard_eq_error_iff.mpr again)
        rw [Except.error.inj same]

end Session

/-- **Malformed input and the state of the cluster are separated.** A simulation fails exactly if
some workload is malformed, none before it is, and all before it are placed. The failure names this
workload and the first rule that refuses it, which is the same in every cluster. A workload that is
not malformed causes no failure, on any node of any cluster. -/
theorem simulate_eq_error_iff (snapshot : Snapshot) (index : TopologyIndex)
    (batch : List Workload) :
    (∀ failure, simulate snapshot index batch = .error failure ↔
      ∃ position workload rejection, batch[position]? = some workload ∧ workload.Malformed ∧
        (∀ earlier ∈ batch.take position, ¬ earlier.Malformed) ∧
        position ≤ ((Session.start snapshot index batch).run .standard).1.assignments.length ∧
        workload.RefusedWith rejection ∧ failure = .admission workload.name rejection) ∧
    (∀ workload : Workload, workload.Malformed → ∃ rejection, workload.RefusedWith rejection ∧
      ∀ view, Chain.prepare .standard view workload = .error rejection) ∧
    ∀ workload : Workload, ¬ workload.Malformed →
      ∀ view, ∃ prepared, Chain.prepare .standard view workload = .ok prepared ∧
        ∀ node rejection, prepared.judge view workload node = .error rejection →
          rejection.status.isError = false := by
  refine ⟨fun failure => ?_, fun workload malformed => ?_, fun workload formed view => ?_⟩
  · obtain ⟨placed, rest, last, split, reached, ends, made⟩ :=
      Session.exists_reaches_run_start .standard snapshot index batch
    rw [simulate, simulateWith_eq_error_iff, ends.eq_error_iff, made]
    constructor
    · rintro ⟨workload, rejection, first, refused, rfl⟩
      refine ⟨placed.length, workload, rejection, ?_, ?_, ?_, Nat.le_refl _, refused, rfl⟩
      · rw [split, List.getElem?_append_right (Nat.le_refl _), Nat.sub_self,
          ← List.head?_eq_getElem?, first]
      · exact Workload.exists_refusedWith_iff.mp ⟨rejection, refused⟩
      · rw [split, List.take_left' rfl]
        exact reached.not_malformed
    · rintro ⟨position, workload, rejection, stands, malformed, -, before, refused, rfl⟩
      refine ⟨workload, rejection, ?_, refused, rfl⟩
      -- a malformed workload is not among the placed ones, so it is the first that is left
      rw [split] at stands
      rcases Nat.lt_or_eq_of_le before with earlier | here
      · rw [List.getElem?_append_left earlier] at stands
        exact absurd malformed (reached.not_malformed workload (List.mem_of_getElem? stands))
      · rwa [here, List.getElem?_append_right (Nat.le_refl _), Nat.sub_self,
          ← List.head?_eq_getElem?] at stands
  · obtain ⟨rejection, refused⟩ := Workload.exists_refusedWith_iff.mpr malformed
    exact ⟨rejection, refused, fun view => Chain.prepare_standard_eq_error_iff.mpr refused⟩
  · obtain ⟨prepared, ready⟩ := Chain.exists_prepare_standard_eq_ok_iff.mpr formed
    exact ⟨prepared, ready, fun node rejection => Prepared.judge_isError_eq_false ready⟩

namespace Sample

def namelessDomain : Rejection :=
  { rule := "InterWorkloadAffinity", status := .error (.affinityTerm .emptyTopologyKey) }

/-- Two rules have something against the second workload, and the first of them is named. -/
theorem simulate_eq_error_iff_broken :
    twiceMalformed.Malformed ∧ twiceMalformed.Faulty .taintToleration ∧
      ¬ (database "db-1").Malformed ∧
      simulate { nodes := zones.nodes } zones.index [database "db-1", twiceMalformed, broken] =
        .error (.admission "broken" namelessDomain) := by
  have nodes : ¬ twiceMalformed.Faulty .nodeAffinity :=
    StandardRule.check_eq_ok_iff.mp (by rfl)
  have terms : twiceMalformed.Faulty .interWorkloadAffinity :=
    StandardRule.exists_check_eq_error_iff.mp ⟨_, by rfl⟩
  have tolerations : twiceMalformed.Faulty .taintToleration :=
    StandardRule.exists_check_eq_error_iff.mp ⟨_, by rfl⟩
  have refused : twiceMalformed.RefusedWith namelessDomain :=
    ⟨.interWorkloadAffinity, _, .interWorkloadAffinity nodes terms, by rfl, rfl⟩
  have formed : ¬ (database "db-1").Malformed := by
    rw [Workload.malformed_iff_not_wellFormed, Classical.not_not]
    exact fun rule => by cases rule <;> rfl
  have malformed : twiceMalformed.Malformed := .inl tolerations
  refine ⟨malformed, tolerations, formed, ?_⟩
  refine ((simulate_eq_error_iff { nodes := zones.nodes } zones.index
    [database "db-1", twiceMalformed, broken]).1 _).mpr ?_
  exact ⟨1, twiceMalformed, _, rfl, malformed, List.forall_mem_singleton.mpr formed,
    Nat.le_of_eq (by rfl), refused, rfl⟩

end Sample

end Headroom
