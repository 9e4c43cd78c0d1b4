import Headroom.Proofs.Estimate.Delay
/-!
# Deadlines that the clock cannot show

The limit for listings may be as long as it likes, but the deadline for the topology index is a
moment, and there is a last one. An estimate whose provider answers comes to a report or a failure,
except when the deadline lies beyond that moment (`answer_ends_iff`). How long a limit may be
depends on what the clock shows already, and nothing in the check of a configuration rules out
longer ones.
-/

namespace Headroom

variable {α β : Type}

/-! ## Inquiries that end -/

namespace Inquiry

/-- The inquiry comes to a value or to a failure. -/
def Ends (inquiry : Inquiry α) : Prop :=
  (∃ value, inquiry.result = .ok value) ∨ ∃ failure, inquiry.result = .error (.failure failure)

theorem ends_iff {inquiry : Inquiry α} : inquiry.Ends ↔ inquiry.result ≠ .error .clockRange := by
  unfold Ends
  cases inquiry.result with
  | ok value => simp
  | error halt => cases halt <;> simp

theorem ends_fail (failure : Failure) : (fail failure : Inquiry α).Ends := .inr ⟨failure, rfl⟩

theorem ends_ofExcept (outcome : Except Failure α) : (ofExcept outcome).Ends := by
  cases outcome with
  | ok value => exact .inl ⟨value, rfl⟩
  | error failure => exact .inr ⟨failure, rfl⟩

theorem Ends.within {inquiry : Inquiry α} (ends : inquiry.Ends) (limit : Nat) (late : Failure) :
    (inquiry.within limit late).Ends := by
  rcases result_within limit late inquiry with early | tardy
  · rwa [Ends, early]
  · exact .inr ⟨late, tardy⟩

/-- A sequence ends when its first part does, and so does what follows a value. -/
theorem Ends.bind {first : Inquiry α} {next : α → Inquiry β} (ends : first.Ends)
    (follows : ∀ value, first.result = .ok value → (next value).Ends) : (first >>= next).Ends := by
  unfold Ends
  rw [result_bind]
  rcases ends with ⟨value, given⟩ | ⟨failure, failed⟩
  · rw [given]
    exact follows value given
  · rw [failed]
    exact .inr ⟨failure, rfl⟩

end Inquiry

/-- A provider all of whose calls end. -/
structure Provider.Returns (provider : Provider) : Prop where
  nodes : provider.nodes.Ends
  pods : provider.pods.Ends
  topology : ∀ snapshot, (provider.topology snapshot).Ends

/-! ## A server returns -/

namespace ApiServer

theorem ends_answer (answering : Answering) (request : Request) (refused : Nat → Failure) :
    (answer answering request refused).Ends := by
  unfold answer
  refine Inquiry.Ends.bind (.inl ⟨(), rfl⟩) fun _ _ => ?_
  refine Inquiry.Ends.bind (.inl ⟨(), rfl⟩) fun _ _ => ?_
  cases answering.status with
  | none => exact .inl ⟨(), rfl⟩
  | some status => exact Inquiry.ends_fail (refused status)

theorem ends_takePages (server : ApiServer) (labels : Option String) (snapshot : Snapshot)
    (pages : List (List Manifest.Pod)) (state : SyncState) :
    (server.takePages labels snapshot pages state).Ends := by
  induction pages generalizing state with
  | nil => exact .inl ⟨state, rfl⟩
  | cons page rest ih =>
      refine (ends_answer _ _ _).bind fun _ _ => ?_
      split
      · exact Inquiry.ends_fail _
      · exact ih _

/-- However a server is set up, the questions to it are answered. -/
theorem returns_provider (server : ApiServer) (config : Config) :
    (server.provider config).Returns where
  nodes := (ends_answer _ _ _).bind fun _ _ => .inl ⟨server.nodes, rfl⟩
  pods := (ends_answer _ _ _).bind fun _ _ => .inl ⟨server.pods, rfl⟩
  topology := by
    intro snapshot
    unfold provider
    cases config.mode with
    | snapshot => exact .inl ⟨.ofSnapshot snapshot, rfl⟩
    | live =>
        refine (server.ends_takePages _ snapshot _ _).bind fun state _ => ?_
        exact Inquiry.ends_ofExcept _

end ApiServer

/-! ## Estimates -/

namespace Estimator

variable {estimator : Estimator} {question : Question} {batch : List Workload}
  {snapshot : Snapshot} {started now : Nat}

theorem ends_snapshot (returns : estimator.provider.Returns) : estimator.snapshot.Ends := by
  have listed : estimator.listing.Ends :=
    returns.nodes.bind fun _ _ => returns.pods.bind fun _ _ => Inquiry.ends_ofExcept _
  exact listed.within _ _

theorem ends_awaitReady (index : TopologyIndex) (milliseconds : Nat) :
    (awaitReady index milliseconds).Ends := by
  cases state : index.ready with
  | true => exact .inl ⟨index, result_awaitReady state milliseconds⟩
  | false => exact .inr ⟨_, result_awaitReady_of_unready state milliseconds⟩

/-- The index is made or refused unless its deadline cannot be shown. -/
theorem ends_topology_iff (returns : estimator.provider.Returns) :
    (estimator.topology now snapshot).Ends ↔
      now / 1000 + estimator.config.syncLimit.toNat ≤ clockRange := by
  rcases Nat.lt_or_ge clockRange (now / 1000 + estimator.config.syncLimit.toNat) with
    beyond | shown
  · rw [Inquiry.ends_iff, result_topology_of_clockRange beyond]
    exact iff_of_false (fun ends => ends rfl) (Nat.not_le_of_lt beyond)
  · refine iff_of_true ?_ shown
    have given := (returns.topology snapshot).within (1000 * estimator.config.syncLimit.toNat)
      (.timeout (.sync estimator.config.syncLimit.toNat))
    unfold Inquiry.Ends
    rw [result_topology_eq estimator snapshot shown]
    rcases given with ⟨index, filled⟩ | ⟨failure, failed⟩
    · rw [filled]
      exact ends_awaitReady index _
    · rw [failed]
      exact .inr ⟨failure, rfl⟩

/-- Once there is a snapshot, an estimate ends if the making of its index does. -/
theorem ends_answer_of_snapshot (asks : question.Asks batch)
    (valid : estimator.config.validate = .ok ()) (read : estimator.snapshot.result = .ok snapshot) :
    (estimator.answer started question).Ends ↔
      (estimator.topology (started + estimator.snapshot.duration) snapshot).Ends := by
  simp only [Inquiry.ends_iff, result_answer started asks valid, read, ok_bind]
  cases (estimator.topology (started + estimator.snapshot.duration) snapshot).result with
  | error halt => simp [error_bind]
  | ok index =>
      refine iff_of_true ?_ (by simp)
      rw [ok_bind]
      cases simulateWith estimator.chain snapshot index batch <;> simp [Except.mapError]

theorem ends_answer_iff (returns : estimator.provider.Returns) (started : Nat)
    (question : Question) :
    (estimator.answer started question).Ends ↔ ∀ batch snapshot, question.Asks batch →
      estimator.config.validate = .ok () → estimator.snapshot.result = .ok snapshot →
        (started + estimator.snapshot.duration) / 1000 + estimator.config.syncLimit.toNat ≤
          clockRange := by
  constructor
  · intro ends batch snapshot asks valid read
    rw [ends_answer_of_snapshot asks valid read] at ends
    exact (ends_topology_iff returns).mp ends
  · intro shown
    rcases question.refused_or_asks estimator.config with ⟨failure, refused⟩ | ⟨batch, asks, valid⟩
    · rw [estimator.answer_of_refused started refused]
      exact Inquiry.ends_fail failure
    · rcases ends_snapshot returns with ⟨snapshot, read⟩ | ⟨failure, failed⟩
      · rw [ends_answer_of_snapshot asks valid read]
        exact (ends_topology_iff returns).mpr (shown batch snapshot asks valid read)
      · refine .inr ⟨failure, ?_⟩
        rw [result_answer started asks valid, failed]
        rfl

end Estimator

/-- **An estimate ends unless the clock cannot show its deadline.** Let all calls of the provider
end. Then listing ends however long its limit is, but the index has a deadline, and that must be a
moment of the clock. Whatever the clock shows when a question is asked, the question comes to a
report or a failure unless its index is due too late: this takes a question that is not refused, a
snapshot, and a limit that is too long at the moment when the snapshot is there. Limits that the
clock can show one after the other, from where it starts, do no harm. -/
theorem answer_ends_iff {estimator : Estimator} (returns : estimator.provider.Returns) :
    estimator.snapshot.Ends ∧
    (∀ now snapshot, (estimator.topology now snapshot).Ends ↔
      now / 1000 + estimator.config.syncLimit.toNat ≤ clockRange) ∧
    (∀ started question, (estimator.answer started question).Ends ↔
      ∀ batch snapshot, question.Asks batch → estimator.config.validate = .ok () →
        estimator.snapshot.result = .ok snapshot →
          (started + estimator.snapshot.duration) / 1000 + estimator.config.syncLimit.toNat ≤
            clockRange) ∧
    (∀ started, started / 1000 + estimator.config.listLimit.toNat +
        estimator.config.syncLimit.toNat ≤ clockRange →
      ∀ question, (estimator.answer started question).Ends) := by
  refine ⟨Estimator.ends_snapshot returns, fun _ _ => Estimator.ends_topology_iff returns,
    Estimator.ends_answer_iff returns, fun started bounded question => ?_⟩
  rw [Estimator.ends_answer_iff returns]
  intro _ _ _ _ _
  have listed := estimator.duration_snapshot_le
  omega

namespace Sample

/-- An estimator for a server of one node, with two limits. -/
def waiting (listLimit syncLimit : UInt64) : Estimator :=
  quietServer.estimatorIn { listLimit, syncLimit } .standard .snapshot

/-- Five seconds after the clock began, the two limits reach its last second, and no further. -/
theorem answer_ends_iff_waiting :
    (waiting 9223372036854775772 30).provider.Returns ∧
      5000 / 1000 + (waiting 9223372036854775772 30).config.listLimit.toNat +
        (waiting 9223372036854775772 30).config.syncLimit.toNat = clockRange ∧
      ((waiting 9223372036854775772 30).answer 5000 (.batch [loner])).Ends := by
  have returns : (waiting 9223372036854775772 30).provider.Returns :=
    quietServer.returns_provider (waiting 9223372036854775772 30).config
  obtain ⟨-, -, -, ends⟩ := answer_ends_iff returns
  exact ⟨returns, by decide, ends 5000 (by decide) _⟩

/-- A configuration passes with the longest limit for the index, but no estimate comes of it,
whatever the clock shows. For listings the same limit does no harm. -/
theorem clockRange_waiting :
    (waiting 30 18446744073709551615).config.validate = .ok () ∧
      (∀ started, ((waiting 30 18446744073709551615).answer started (.batch [loner])).result =
        .error .clockRange) ∧
      ∃ report,
        ((waiting 18446744073709551615 30).answer 5000 (.batch [loner])).result = .ok report := by
  refine ⟨by rfl, fun started => ?_, _, by rfl⟩
  obtain ⟨snapshot, read⟩ :
      ∃ snapshot, (waiting 30 18446744073709551615).snapshot.result = .ok snapshot := ⟨_, by rfl⟩
  have long : (waiting 30 18446744073709551615).config.syncLimit.toNat = 18446744073709551615 := by
    rfl
  rw [Estimator.result_answer started (.batch (List.cons_ne_nil _ _)) (by rfl), read, ok_bind,
    Estimator.result_topology_of_clockRange]
  · rfl
  · show 9223372036854775807 < _
    omega

/-- A limit that reaches to the last second from the start of the clock is too long a second
later. -/
example : ((waiting 30 9223372036854775807).answer 1000 (.batch [loner])).result =
    .error .clockRange := by
  rfl

end Sample

end Headroom
