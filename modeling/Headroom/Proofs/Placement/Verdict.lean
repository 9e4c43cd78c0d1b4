import Headroom.Proofs.Placement.Prefix
/-!
# The verdict of a session

A session calls its batch infeasible once a workload has been marked as the first that fits nowhere,
and feasible otherwise. After a run that ended without a failure this is the truth: the mark is set
where the assignments stop, and without a mark nothing is left over. A malformed workload ends the
run without a mark, so the session then goes by the name of feasible with workloads left over
(`truthful_iff_run_eq_ok`). The failure has to be looked at first.
-/

namespace Headroom

/-- A verdict says what has become of the batch of a session: that all of it has been placed, or how
much of it, up to the workload that fits nowhere. -/
structure Session.Truthful (session : Session) (verdict : Verdict) : Prop where
  feasible : verdict = .feasible → session.assignments.length = session.batch.length
  infeasible : ∀ requested schedulable, verdict = .infeasible requested schedulable →
    requested = session.batch.length ∧ schedulable = session.assignments.length ∧
      schedulable < requested ∧ session.firstUnplaced = some schedulable

variable {chain : Chain} {start session final : Session} {rest : List Workload}
  {outcome : Except Failure Unit}

namespace Session

theorem truthful_of_unmarked (unmarked : session.firstUnplaced = none)
    (all : session.assignments.length = session.batch.length) :
    session.Truthful session.verdict where
  feasible := fun _ => all
  infeasible := fun _ _ infeasible =>
    absurd unmarked (verdict_eq_infeasible_iff.mp infeasible).1

theorem truthful_giveUp (short : session.assignments.length < session.batch.length) :
    (session.giveUp session.assignments.length).Truthful
      (session.giveUp session.assignments.length).verdict where
  feasible := fun feasible => by
    have unmarked := verdict_eq_feasible_iff.mp feasible
    contradiction
  infeasible := fun requested schedulable infeasible => by
    obtain ⟨-, rfl, rfl⟩ := verdict_eq_infeasible_iff.mp infeasible
    exact ⟨rfl, rfl, short, rfl⟩

/-- The ways in which a run that has come to a state ends, and what the verdict is worth then. The
mark that is set is the number of the turn, which is the number of assignments. -/
theorem Ends.truthful_iff (ends : Ends chain session.assignments.length session rest final outcome)
    (unmarked : session.firstUnplaced = none)
    (left_over : session.assignments.length + rest.length = session.batch.length) :
    (final.Truthful final.verdict ↔ outcome = .ok ()) ∧
      ∀ failure, outcome = .error failure →
        final.verdict = .feasible ∧ final.assignments.length < final.batch.length := by
  cases ends with
  | complete =>
      refine ⟨iff_of_true (truthful_of_unmarked unmarked left_over) rfl, ?_⟩
      exact fun failure failed => by contradiction
  | unplaceable nowhere =>
      rw [List.length_cons] at left_over
      refine ⟨iff_of_true (truthful_giveUp (by omega)) rfl, ?_⟩
      exact fun failure failed => by contradiction
  | malformed objects =>
      rw [List.length_cons] at left_over
      have feasible := verdict_eq_feasible_iff.mpr unmarked
      have short : session.assignments.length < session.batch.length := by omega
      refine ⟨iff_of_false (fun truthful => ?_) (by simp), fun _ _ => ⟨feasible, short⟩⟩
      exact Nat.ne_of_lt short (truthful.feasible feasible)

end Session

/-- **What a verdict is worth.** After the run of any chain over any snapshot, index and batch, the
verdict of the session and of its report is the truth exactly if the run has not failed. If it has,
the verdict is that of a feasible batch, although some of the batch is left over. -/
theorem truthful_iff_run_eq_ok (chain : Chain) (snapshot : Snapshot) (index : TopologyIndex)
    (batch : List Workload) {final : Session} {outcome : Except Failure Unit}
    (ran : (Session.start snapshot index batch).run chain = (final, outcome)) :
    final.batch = batch ∧ final.report.verdict = final.verdict ∧
      (final.Truthful final.verdict ↔ outcome = .ok ()) ∧
      ∀ failure, outcome = .error failure →
        final.verdict = .feasible ∧ final.assignments.length < batch.length := by
  obtain ⟨placed, rest, last, split, reached, ends, made⟩ :=
    Session.exists_reaches_run_start chain snapshot index batch
  rw [ran] at ends made
  have same_batch : final.batch = batch := by
    have kept : ((Session.start snapshot index batch).run chain).1.batch = batch :=
      Session.batch_placeAll
    rwa [ran] at kept
  have left_over : last.assignments.length + rest.length = last.batch.length := by
    have whole : last.batch = placed ++ rest := reached.batch_eq.trans split
    rw [← ends.assignments_eq, made, whole, List.length_append]
  rw [reached.turn_eq] at ends
  have worth := ends.truthful_iff reached.firstUnplaced_eq left_over
  rw [same_batch] at worth
  exact ⟨same_batch, rfl, worth⟩

namespace Sample

/-- A malformed workload on a cluster without nodes: nothing is placed, and the verdict is that of a
feasible batch. -/
theorem not_truthful_broken :
    ¬ ((Session.start {} {} [broken]).run .standard).1.Truthful
      ((Session.start {} {} [broken]).run .standard).1.verdict := by
  intro truthful
  have all : 0 = 1 := truthful.feasible (by rfl)
  contradiction

/-- With the malformed workload last, the one before it is placed, and the other is left over. -/
theorem truthful_iff_run_eq_ok_broken :
    (overZones [database "db-1", broken]).run .standard =
        (((overZones [database "db-1"]).run .standard).1.withBatch [database "db-1", broken],
          .error (.admission "broken" comparesNoKey)) ∧
      ¬ (((overZones [database "db-1"]).run .standard).1.withBatch
        [database "db-1", broken]).Truthful .feasible := by
  have ran : (overZones [database "db-1", broken]).run .standard =
      (((overZones [database "db-1"]).run .standard).1.withBatch [database "db-1", broken],
        .error (.admission "broken" comparesNoKey)) := by rfl
  obtain ⟨-, -, worth, -⟩ := truthful_iff_run_eq_ok .standard { nodes := zones.nodes } zones.index
    [database "db-1", broken] ran
  refine ⟨ran, fun truthful => ?_⟩
  have done := worth.mp truthful
  contradiction

end Sample

end Headroom
