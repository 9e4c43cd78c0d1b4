import Headroom.Estimate
import Headroom.Proofs.Inquiry
/-!
# What estimates come to

An estimate comes to what its stages come to: the check of the configuration, the snapshot, the
index and the run (`Estimator.result_estimate`). The snapshot is made of what the provider lists,
and the index is the one that the provider gives, unless it is late or due beyond the clock.
-/

namespace Headroom

namespace Estimator

variable {estimator : Estimator} {now : Nat} {snapshot : Snapshot} {index : TopologyIndex}
  {batch : List Workload}

theorem result_estimate (estimator : Estimator) (started : Nat)
    (nonempty : batch.isEmpty = false) :
    (estimator.estimate started batch).result =
      ((estimator.config.validate.mapError Failure.config).mapError .failure) >>= fun _ =>
        estimator.snapshot.result >>= fun snapshot =>
          (estimator.topology (started + estimator.snapshot.duration) snapshot).result >>=
            fun index => (simulateWith estimator.chain snapshot index batch).mapError .failure := by
  unfold estimate
  rw [nonempty, if_neg Bool.false_ne_true, Inquiry.result_bind, Inquiry.result_ofExcept]
  refine congrArg _ (funext fun _ => ?_)
  rw [Inquiry.result_timed_bind]
  simp only [Inquiry.result_bind, Inquiry.result_ofExcept]

/-- Once there is a snapshot, the index and the rules decide. -/
theorem result_estimate_of_snapshot (estimator : Estimator) (started : Nat)
    (nonempty : batch.isEmpty = false) (valid : estimator.config.validate = .ok ())
    (read : estimator.snapshot.result = .ok snapshot) :
    (estimator.estimate started batch).result =
      (estimator.topology (started + estimator.snapshot.duration) snapshot).result >>= fun index =>
        (simulateWith estimator.chain snapshot index batch).mapError .failure := by
  rw [result_estimate estimator started nonempty, valid, read]
  rfl

/-- What a snapshot is made of, without a limit. -/
def listing (estimator : Estimator) : Inquiry Snapshot := do
  let nodes ← estimator.provider.nodes
  let pods ← estimator.provider.pods
  Inquiry.ofExcept ((Snapshot.build nodes pods).mapError .retrieval)

theorem snapshot_eq (estimator : Estimator) :
    estimator.snapshot = estimator.listing.within (1000 * estimator.config.listLimit.toNat)
      (.timeout (.listing estimator.config.listLimit.toNat)) := rfl

theorem result_listing (estimator : Estimator) :
    estimator.listing.result =
      estimator.provider.nodes.result >>= fun nodes =>
        estimator.provider.pods.result >>= fun pods =>
          ((Snapshot.build nodes pods).mapError Failure.retrieval).mapError .failure := by
  unfold listing
  simp only [Inquiry.result_bind, Inquiry.result_ofExcept]

theorem build_of_result_snapshot (read : estimator.snapshot.result = .ok snapshot) :
    ∃ nodes pods, estimator.provider.nodes.result = .ok nodes ∧
      estimator.provider.pods.result = .ok pods ∧ Snapshot.build nodes pods = .ok snapshot := by
  rw [snapshot_eq] at read
  rw [Inquiry.within_eq_self_of_result_eq_ok read, result_listing] at read
  simp only [bind_eq_ok_iff, mapError_eq_ok_iff] at read
  obtain ⟨nodes, listed, pods, shown, built⟩ := read
  exact ⟨nodes, pods, listed, shown, built⟩

theorem result_awaitReady (ready : index.ready = true) (milliseconds : Nat) :
    (awaitReady index milliseconds).result = .ok index := by
  unfold awaitReady
  rw [ready]
  rfl

/-- An index that comes in time is waited for with what is left of the limit. -/
theorem result_topology_eq (estimator : Estimator) (snapshot : Snapshot)
    (shown : now / 1000 + estimator.config.syncLimit.toNat ≤ clockRange) :
    (estimator.topology now snapshot).result =
      ((estimator.provider.topology snapshot).within (1000 * estimator.config.syncLimit.toNat)
        (.timeout (.sync estimator.config.syncLimit.toNat))).result >>= fun index =>
          (awaitReady index (1000 * estimator.config.syncLimit.toNat -
            (estimator.provider.topology snapshot).duration)).result := by
  have within : ¬clockRange < (now + 1000 * estimator.config.syncLimit.toNat) / 1000 := by omega
  unfold topology
  rw [if_neg within, Inquiry.result_timed_bind]
  cases filled : ((estimator.provider.topology snapshot).within
      (1000 * estimator.config.syncLimit.toNat)
      (.timeout (.sync estimator.config.syncLimit.toNat))).result with
  | error halt => rfl
  | ok index => rw [Inquiry.within_eq_self_of_result_eq_ok filled]

/-- An index that is ready is not waited for, so only the provider can be late. -/
theorem result_topology (estimator : Estimator) (snapshot : Snapshot)
    (shown : now / 1000 + estimator.config.syncLimit.toNat ≤ clockRange)
    (ready : ∀ index, (estimator.provider.topology snapshot).result = .ok index →
      index.ready = true) :
    (estimator.topology now snapshot).result = (estimator.provider.topology snapshot).result ∨
      (estimator.topology now snapshot).result =
        .error (.failure (.timeout (.sync estimator.config.syncLimit.toNat))) := by
  rw [result_topology_eq estimator snapshot shown]
  rcases Inquiry.result_within (1000 * estimator.config.syncLimit.toNat)
    (.timeout (.sync estimator.config.syncLimit.toNat)) (estimator.provider.topology snapshot)
    with inTime | late
  · refine .inl ?_
    rw [inTime]
    cases filled : (estimator.provider.topology snapshot).result with
    | error halt => rfl
    | ok index => exact result_awaitReady (ready index filled) _
  · rw [late]
    exact .inr rfl

theorem result_topology_of_pure
    (shown : now / 1000 + estimator.config.syncLimit.toNat ≤ clockRange)
    (given : estimator.provider.topology snapshot = pure index) (ready : index.ready = true) :
    (estimator.topology now snapshot).result = .ok index := by
  rw [result_topology_eq estimator snapshot shown, given, Inquiry.within_pure]
  exact result_awaitReady ready _

theorem result_topology_of_clockRange
    (beyond : clockRange < now / 1000 + estimator.config.syncLimit.toNat) :
    (estimator.topology now snapshot).result = .error .clockRange := by
  have outside : clockRange < (now + 1000 * estimator.config.syncLimit.toNat) / 1000 := by omega
  unfold topology
  rw [if_pos outside]
  rfl

end Estimator

end Headroom
