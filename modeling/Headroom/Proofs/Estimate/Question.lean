import Headroom.Proofs.Estimate
/-!
# Questions to an estimator

An estimator is asked about a batch or about a number of equal workloads. Some questions it refuses
on its own, before it asks anything of the cluster (`Estimator.answer_of_refused`). Each of the
others is about one batch, and only these take time (`Question.refused_or_asks`,
`Estimator.result_answer`).
-/

namespace Headroom

/-- Whatever is checked, no limit is zero. -/
theorem Config.limits_positive {config : Config} (valid : config.validate = .ok ()) :
    0 < config.listLimit.toNat ∧ 0 < config.syncLimit.toNat := by
  unfold validate at valid
  split at valid
  · contradiction
  · next listing =>
      split at valid
      · contradiction
      · next sync =>
          have nonzero : ∀ limit : UInt64, limit ≠ 0 → 0 < limit.toNat := by
            intro limit positive
            refine Nat.pos_of_ne_zero fun zero => positive ?_
            exact UInt64.toNat_inj.mp zero
          exact ⟨nonzero _ listing, nonzero _ sync⟩

/-- What an estimator is asked. -/
inductive Question where
  | batch (workloads : List Workload)
  | uniform (count : Nat) (profile : Profile)

/-- The answer to a question that is asked when the clock shows the given milliseconds. -/
def Estimator.answer (estimator : Estimator) (started : Nat) : Question → Inquiry Report
  | .batch workloads => estimator.estimate started workloads
  | .uniform count profile => estimator.estimateUniform started count profile

namespace Question

/-- The batch that a sound question is about. -/
inductive Asks : Question → List Workload → Prop
  | batch {workloads : List Workload} : workloads ≠ [] → Asks (.batch workloads) workloads
  | uniform {count : Nat} {profile : Profile} :
      count ≠ 0 → 0 ≤ profile.cpuMillis.val → 0 ≤ profile.memoryBytes.val →
      Asks (.uniform count profile) (profile.workloads count)

/-- Why a question is refused, whatever the cluster is like. -/
inductive Refused (config : Config) : Question → Failure → Prop
  | emptyBatch : Refused config (.batch []) (.input .emptyBatch)
  | zeroCount {profile : Profile} : Refused config (.uniform 0 profile) (.input .zeroCount)
  | negativeRequests {count : Nat} {profile : Profile} :
      count ≠ 0 → profile.cpuMillis.val < 0 ∨ profile.memoryBytes.val < 0 →
      Refused config (.uniform count profile) (.input .negativeRequests)
  | config {question : Question} {batch : List Workload} {fault : ConfigFault} :
      question.Asks batch → config.validate = .error fault →
      Refused config question (.config fault)

variable {question : Question} {batch : List Workload} {config : Config} {failure : Failure}

theorem Asks.refused_or_valid (asks : question.Asks batch) (config : Config) :
    (∃ failure, question.Refused config failure) ∨
      ∃ batch, question.Asks batch ∧ config.validate = .ok () := by
  cases checked : config.validate with
  | error fault => exact .inl ⟨.config fault, .config asks checked⟩
  | ok valid => exact .inr ⟨batch, asks, rfl⟩

/-- A question that is not refused is about a batch. -/
theorem refused_or_asks (config : Config) (question : Question) :
    (∃ failure, question.Refused config failure) ∨
      ∃ batch, question.Asks batch ∧ config.validate = .ok () := by
  cases question with
  | batch workloads =>
      by_cases empty : workloads = []
      · rw [empty]
        exact .inl ⟨_, .emptyBatch⟩
      · exact (Asks.batch empty).refused_or_valid config
  | uniform count profile =>
      by_cases none_asked : count = 0
      · rw [none_asked]
        exact .inl ⟨_, .zeroCount⟩
      · by_cases negative : profile.cpuMillis.val < 0 ∨ profile.memoryBytes.val < 0
        · exact .inl ⟨_, .negativeRequests none_asked negative⟩
        · have sound : (Question.uniform count profile).Asks (profile.workloads count) :=
            .uniform none_asked (by omega) (by omega)
          exact sound.refused_or_valid config

end Question

namespace Estimator

variable {estimator : Estimator} {started : Nat} {question : Question} {batch : List Workload}
  {failure : Failure}

theorem answer_eq_estimate (estimator : Estimator) (started : Nat) (asks : question.Asks batch) :
    estimator.answer started question = estimator.estimate started batch ∧
      batch.isEmpty = false := by
  cases asks with
  | batch nonempty => exact ⟨rfl, by simpa using nonempty⟩
  | @uniform count profile counted cpu memory =>
      refine ⟨?_, by simp [Profile.workloads, counted]⟩
      have sound : ¬(profile.cpuMillis.val < 0 || profile.memoryBytes.val < 0) = true := by
        simp only [Bool.or_eq_true, decide_eq_true_eq]
        omega
      show estimator.estimateUniform started count profile = _
      unfold estimateUniform
      rw [if_neg counted, if_neg sound]

/-- A refusal takes no time and asks nothing of the cluster. -/
theorem answer_of_refused (estimator : Estimator) (started : Nat)
    (refused : question.Refused estimator.config failure) :
    estimator.answer started question = Inquiry.fail failure := by
  cases refused with
  | emptyBatch => rfl
  | zeroCount => rfl
  | negativeRequests counted negative =>
      show estimator.estimateUniform started _ _ = _
      unfold estimateUniform
      rw [if_neg counted, if_pos (by simpa using negative)]
  | config asks invalid =>
      obtain ⟨same, nonempty⟩ := estimator.answer_eq_estimate started asks
      rw [same]
      unfold estimate
      rw [nonempty, invalid]
      rfl

/-- What is asked about a batch is answered by the snapshot, the index and the rules. -/
theorem result_answer (started : Nat) (asks : question.Asks batch)
    (valid : estimator.config.validate = .ok ()) :
    (estimator.answer started question).result =
      estimator.snapshot.result >>= fun snapshot =>
        (estimator.topology (started + estimator.snapshot.duration) snapshot).result >>=
          fun index => (simulateWith estimator.chain snapshot index batch).mapError .failure := by
  obtain ⟨same, nonempty⟩ := estimator.answer_eq_estimate started asks
  rw [same, result_estimate estimator started nonempty, valid]
  rfl

end Estimator

end Headroom
