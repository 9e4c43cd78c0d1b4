import Headroom.Proofs.Estimate.Question
import Headroom.Proofs.Provider.Watch
import Mathlib.Algebra.Group.Nat.Defs
/-!
# Estimates and delays

All that a delay can do to an estimate is to make it late. As long as both stages keep their limits,
an answer is what it would be if nothing took any time (`delay_only_makes_late`). To reach a limit
exactly is to keep it, but a question that goes out to a server at that moment has no time to be
answered, not even at once (`Sample.late_at_limit`).
-/

namespace Headroom

/-- The provider with the same results, none of which takes any time. -/
def Provider.instant (provider : Provider) : Provider where
  nodes := provider.nodes.instant
  pods := provider.pods.instant
  topology snapshot := (provider.topology snapshot).instant

namespace Estimator

variable {estimator : Estimator} {question : Question} {batch : List Workload}
  {snapshot : Snapshot} {index : TopologyIndex} {started : Nat}

/-- The estimator as it would be if nothing took any time. -/
def instant (estimator : Estimator) : Estimator :=
  { estimator with provider := estimator.provider.instant }

/-- Listings and index come within their limits, and no question goes out to a server just as the
limit for it is reached. -/
structure Punctual (estimator : Estimator) : Prop where
  listing_le : estimator.provider.nodes.duration + estimator.provider.pods.duration ≤
    1000 * estimator.config.listLimit.toNat
  listing_sent : ∀ asked ∈ estimator.listing.asked, asked.remote = true →
    asked.moment ≠ 1000 * estimator.config.listLimit.toNat
  topology_le : ∀ snapshot, estimator.listing.result = .ok snapshot →
    (estimator.provider.topology snapshot).duration ≤ 1000 * estimator.config.syncLimit.toNat
  topology_sent : ∀ snapshot, estimator.listing.result = .ok snapshot →
    ∀ asked ∈ (estimator.provider.topology snapshot).asked, asked.remote = true →
      asked.moment ≠ 1000 * estimator.config.syncLimit.toNat

/-! ## Without limits -/

/-- What the results of the provider come to when there are no limits, except that an unready index
is waited for some time. -/
def conclusion (estimator : Estimator) (batch : List Workload) (patience : Snapshot → Nat) :
    Except Halt Report :=
  estimator.listing.result >>= fun snapshot =>
    (estimator.provider.topology snapshot).result >>= fun index =>
      (awaitReady index (patience snapshot)).result >>= fun index =>
        (simulateWith estimator.chain snapshot index batch).mapError .failure

theorem result_awaitReady_of_unready (unready : index.ready = false) (milliseconds : Nat) :
    (awaitReady index milliseconds).result =
      .error (.failure (.timeout (.readiness milliseconds))) := by
  unfold awaitReady
  rw [unready]
  rfl

/-- How long an unready index is waited for shows in the failure, and nowhere else. -/
theorem conclusion_eq_or_unready (estimator : Estimator) (batch : List Workload)
    (patience other : Snapshot → Nat) :
    estimator.conclusion batch patience = estimator.conclusion batch other ∨
      ∃ snapshot index, estimator.listing.result = .ok snapshot ∧
        (estimator.provider.topology snapshot).result = .ok index ∧ index.ready = false ∧
          estimator.conclusion batch patience =
            .error (.failure (.timeout (.readiness (patience snapshot)))) ∧
          estimator.conclusion batch other =
            .error (.failure (.timeout (.readiness (other snapshot)))) := by
  unfold conclusion
  cases read : estimator.listing.result with
  | error halt => exact .inl rfl
  | ok snapshot =>
      simp only [ok_bind]
      cases filled : (estimator.provider.topology snapshot).result with
      | error halt => exact .inl rfl
      | ok index =>
          simp only [ok_bind]
          cases state : index.ready with
          | true =>
              rw [result_awaitReady state, result_awaitReady state]
              exact .inl rfl
          | false =>
              refine .inr ⟨snapshot, index, rfl, filled, state, ?_⟩
              rw [result_awaitReady_of_unready state, result_awaitReady_of_unready state]
              exact ⟨rfl, rfl⟩

theorem conclusion_instant (estimator : Estimator) (batch : List Workload)
    (patience : Snapshot → Nat) :
    estimator.instant.conclusion batch patience = estimator.conclusion batch patience := by
  have same : estimator.instant.listing.result = estimator.listing.result := by
    rw [result_listing, result_listing]
    rfl
  unfold conclusion
  rw [same]
  rfl

/-! ## Within limits -/

theorem duration_snapshot_le (estimator : Estimator) :
    estimator.snapshot.duration ≤ 1000 * estimator.config.listLimit.toNat :=
  Inquiry.duration_within_le _ _ _

/-- The time that is left for an index to become ready. -/
def patience (estimator : Estimator) (snapshot : Snapshot) : Nat :=
  1000 * estimator.config.syncLimit.toNat - (estimator.provider.topology snapshot).duration

theorem duration_listing_instant (estimator : Estimator) :
    estimator.instant.listing.duration ≤ 0 := by
  refine Inquiry.duration_bind_le estimator.instant.provider.nodes 0 fun nodes => ?_
  exact Inquiry.duration_bind_le estimator.instant.provider.pods 0 fun pods => Nat.le_refl 0

/-- What takes no time keeps every limit, since no limit is zero. -/
theorem punctual_instant (valid : estimator.config.validate = .ok ()) :
    estimator.instant.Punctual := by
  obtain ⟨listing_positive, sync_positive⟩ := Config.limits_positive valid
  have at_once := estimator.duration_listing_instant
  refine ⟨Nat.zero_le _, fun asked member _ => ?_, fun _ _ => Nat.zero_le _,
    fun snapshot _ asked member _ => ?_⟩
  · have moment := estimator.instant.listing.moment_le asked member
    show asked.moment ≠ 1000 * estimator.config.listLimit.toNat
    omega
  · have moment : asked.moment ≤ 0 :=
      (estimator.instant.provider.topology snapshot).moment_le asked member
    show asked.moment ≠ 1000 * estimator.config.syncLimit.toNat
    omega

/-- The limit for listings makes no difference to listings that keep it. -/
theorem Punctual.snapshot_eq_listing (punctual : estimator.Punctual) :
    estimator.snapshot = estimator.listing := by
  have lasts : estimator.listing.duration ≤ 1000 * estimator.config.listLimit.toNat := by
    refine Nat.le_trans (Inquiry.duration_bind_le _ _ fun nodes => ?_) punctual.listing_le
    exact Inquiry.duration_bind_le _ 0 fun pods => Nat.le_refl 0
  exact Inquiry.within_eq_self lasts punctual.listing_sent

theorem Punctual.result_answer (punctual : estimator.Punctual) (asks : question.Asks batch)
    (valid : estimator.config.validate = .ok ())
    (shown : (started + estimator.snapshot.duration) / 1000 + estimator.config.syncLimit.toNat ≤
      clockRange) :
    (estimator.answer started question).result =
      estimator.conclusion batch estimator.patience := by
  rw [Estimator.result_answer started asks valid]
  unfold conclusion
  rw [congrArg Inquiry.result punctual.snapshot_eq_listing]
  cases read : estimator.listing.result with
  | error halt => rfl
  | ok snapshot =>
      rw [ok_bind, ok_bind, result_topology_eq estimator snapshot shown,
        Inquiry.within_eq_self (punctual.topology_le snapshot read)
          (punctual.topology_sent snapshot read)]
      cases (estimator.provider.topology snapshot).result <;> rfl

section

variable (asks : question.Asks batch) (valid : estimator.config.validate = .ok ())
  (shown : (started + estimator.snapshot.duration) / 1000 + estimator.config.syncLimit.toNat ≤
    clockRange)
include asks valid shown

theorem result_answer_eq_or_late :
    (estimator.answer started question).result = estimator.conclusion batch estimator.patience ∨
      ∃ delay, (estimator.answer started question).result =
        .error (.failure (.timeout delay)) := by
  rw [result_answer started asks valid]
  unfold conclusion
  rcases Inquiry.result_within (1000 * estimator.config.listLimit.toNat)
    (.timeout (.listing estimator.config.listLimit.toNat)) estimator.listing with early | late
  · rw [snapshot_eq, early, ← snapshot_eq]
    cases estimator.listing.result with
    | error halt => exact .inl rfl
    | ok snapshot =>
        rw [ok_bind, ok_bind, result_topology_eq estimator snapshot shown]
        rcases Inquiry.result_within (1000 * estimator.config.syncLimit.toNat)
          (.timeout (.sync estimator.config.syncLimit.toNat))
          (estimator.provider.topology snapshot) with early | late
        · rw [early]
          cases (estimator.provider.topology snapshot).result <;> exact .inl rfl
        · rw [late]
          exact .inr ⟨_, rfl⟩
  · rw [snapshot_eq, late]
    exact .inr ⟨_, rfl⟩

theorem result_answer_instant :
    (estimator.instant.answer started question).result =
      estimator.conclusion batch fun _ => 1000 * estimator.config.syncLimit.toNat := by
  have punctual := punctual_instant valid
  have early : (started + estimator.instant.snapshot.duration) / 1000 +
      estimator.config.syncLimit.toNat ≤ clockRange := by
    have at_once := estimator.duration_listing_instant
    rw [← punctual.snapshot_eq_listing] at at_once
    omega
  rw [punctual.result_answer asks valid early, conclusion_instant]
  rfl

/-- Whatever a question is answered, it is the answer without delays or a timeout. -/
theorem result_answer_eq_instant_or_late :
    (estimator.answer started question).result =
        (estimator.instant.answer started question).result ∨
      ∃ delay, (estimator.answer started question).result =
        .error (.failure (.timeout delay)) := by
  rw [result_answer_instant asks valid shown]
  rcases result_answer_eq_or_late asks valid shown with through | late
  · rw [through]
    rcases estimator.conclusion_eq_or_unready batch estimator.patience
      (fun _ => 1000 * estimator.config.syncLimit.toNat) with same | ⟨_, _, _, _, _, unready, _⟩
    · exact .inl same
    · exact .inr ⟨_, unready⟩
  · exact .inr late

end

end Estimator

/-- **Delays can only make an estimate late.** A refusal comes at once, before anything is asked of
the cluster. Any other answer is the one that would be given if nothing took any time, or a timeout.
It is that one if listings and index keep their limits, reached exactly or not, and no question goes
out to a server just as its limit is reached. Only for an index that never becomes ready may the two
differ: both are timeouts then, and each tells how long there was left to wait. The limit for the
index has to be below half the range of the clock, and the clock has to show no more than that when
the snapshot is there; from zero it does not get further within a limit for listings that is below
half its range. -/
theorem delay_only_makes_late (estimator : Estimator) (started : Nat) (question : Question) :
    (∀ failure, question.Refused estimator.config failure →
      estimator.answer started question = Inquiry.fail failure) ∧
    (estimator.config.validate = .ok () →
      (started + estimator.snapshot.duration) / 1000 ≤ 2 ^ 62 →
      estimator.config.syncLimit.toNat < 2 ^ 62 →
        ((estimator.answer started question).result =
            (estimator.instant.answer started question).result ∨
          ∃ delay, (estimator.answer started question).result =
            .error (.failure (.timeout delay))) ∧
        (estimator.Punctual →
          (estimator.answer started question).result =
              (estimator.instant.answer started question).result ∨
            ∃ snapshot index, estimator.listing.result = .ok snapshot ∧
              (estimator.provider.topology snapshot).result = .ok index ∧ index.ready = false ∧
                (estimator.answer started question).result =
                  .error (.failure (.timeout (.readiness (estimator.patience snapshot)))) ∧
                (estimator.instant.answer started question).result =
                  .error (.failure (.timeout
                    (.readiness (1000 * estimator.config.syncLimit.toNat)))))) := by
  refine ⟨fun _ => estimator.answer_of_refused started, fun valid clock_small sync_small => ?_⟩
  have shown : (started + estimator.snapshot.duration) / 1000 +
      estimator.config.syncLimit.toNat ≤ clockRange := by
    show _ ≤ 9223372036854775807
    omega
  rcases question.refused_or_asks estimator.config with ⟨failure, refused⟩ | ⟨batch, asks, -⟩
  · have same : estimator.answer started question = estimator.instant.answer started question :=
      (estimator.answer_of_refused started refused).trans
        (estimator.instant.answer_of_refused started refused).symm
    rw [← same]
    exact ⟨.inl rfl, fun _ => .inl rfl⟩
  · refine ⟨Estimator.result_answer_eq_instant_or_late asks valid shown, fun punctual => ?_⟩
    rw [punctual.result_answer asks valid shown,
      Estimator.result_answer_instant asks valid shown]
    exact estimator.conclusion_eq_or_unready batch _ _

namespace Sample

/-- Both stages end exactly at their limits: the listings take half a minute, and the watch takes
two seconds. -/
def brink : Estimator :=
  { slowServer with nodesAnswer := { delay := 29000 }, podsAnswer := { delay := 1000 } }.estimatorIn
    { syncLimit := 2 } .standard .live

theorem punctual_brink : brink.Punctual where
  listing_le := by decide
  listing_sent := by decide
  topology_le := by
    intro snapshot read
    cases read
    decide
  topology_sent := by
    intro snapshot read
    cases read
    decide

theorem delay_only_makes_late_brink :
    brink.answer 5000 (.batch []) = Inquiry.fail (.input .emptyBatch) ∧
      brink.config.validate = .ok () ∧ (5000 + brink.snapshot.duration) / 1000 ≤ 2 ^ 62 ∧
      brink.config.syncLimit.toNat < 2 ^ 62 ∧ brink.Punctual ∧ ∃ report,
        (brink.answer 5000 (.batch [loner])).result = .ok report ∧
          (brink.instant.answer 5000 (.batch [loner])).result = .ok report := by
  obtain ⟨refuses, -⟩ := delay_only_makes_late brink 5000 (.batch [])
  have valid : brink.config.validate = .ok () := by rfl
  have early : (5000 + brink.snapshot.duration) / 1000 ≤ 2 ^ 62 := by decide
  obtain ⟨report, answered⟩ :
      ∃ report, (brink.answer 5000 (.batch [loner])).result = .ok report := ⟨_, by rfl⟩
  obtain ⟨-, timely⟩ := delay_only_makes_late brink 5000 (.batch [loner])
  obtain ⟨-, same⟩ := timely valid early (by decide)
  refine ⟨refuses _ .emptyBatch, valid, early, by decide, punctual_brink, report, answered, ?_⟩
  rcases same punctual_brink with same | ⟨_, _, _, _, _, late, _⟩
  · rw [← same]
    exact answered
  · rw [answered] at late
    contradiction

/-- A server with one node, on which nothing runs. -/
def quietServer : ApiServer := { nodes := [host "one"] }

/-- The watch is answered at once, but begins only when two seconds have passed. -/
def latecomer : Estimator :=
  let config : Config := { syncLimit := 2, mode := .live }
  { provider := (quietServer.provider config).delayTopology 2000, config }

/-- Although the index takes no longer than its limit, it is late: its question goes out to the
server just as the limit is reached. -/
theorem late_at_limit :
    latecomer.config.validate = .ok () ∧
      latecomer.provider.nodes.duration + latecomer.provider.pods.duration = 0 ∧
      (∃ snapshot, latecomer.listing.result = .ok snapshot ∧
        (latecomer.provider.topology snapshot).duration =
          1000 * latecomer.config.syncLimit.toNat) ∧
      (latecomer.answer 5000 (.batch [loner])).result =
          .error (.failure (.timeout (.sync 2))) ∧
        ∃ report, (latecomer.instant.answer 5000 (.batch [loner])).result = .ok report :=
  ⟨by rfl, by rfl, ⟨_, by rfl, by rfl⟩, by rfl, _, by rfl⟩

end Sample

end Headroom
