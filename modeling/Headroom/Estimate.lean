import Headroom.Config
import Headroom.Placement
import Headroom.Provider.Basic
/-!
# Estimates

An estimate answers whether a batch of workloads fits into a cluster now: it lists nodes and pods
within one limit, has the topology index filled and ready within another, and runs the chain of
rules over the snapshot. Nothing is kept from one estimate to the next. The clock has been running
before an estimate begins, so what it shows then is given.
-/

namespace Headroom

/-- The last second that the clock can show. -/
def clockRange : Nat := 9223372036854775807

/-- What an estimate is made with. -/
structure Estimator where
  provider : Provider
  config : Config := {}
  chain : Chain := .standard

namespace Estimator

/-- Lists nodes and pods and makes the snapshot, within the limit for listings. Unlike the deadline
for the topology index, a limit beyond the range of the clock does no harm. -/
def snapshot (estimator : Estimator) : Inquiry Snapshot :=
  let seconds := estimator.config.listLimit.toNat
  Inquiry.within (1000 * seconds) (.timeout (.listing seconds)) do
    let nodes ← estimator.provider.nodes
    let pods ← estimator.provider.pods
    Inquiry.ofExcept ((Snapshot.build nodes pods).mapError .retrieval)

/-- Waits until an index is ready. Nobody fills it any more, so an unready one is late. -/
def awaitReady (index : TopologyIndex) (milliseconds : Nat) : Inquiry TopologyIndex :=
  if index.ready then pure index
  else do
    Inquiry.pause milliseconds
    Inquiry.fail (.timeout (.readiness milliseconds))

/-- Has the topology index filled and ready, both within the limit for it. The deadline is computed
first, from the milliseconds that the clock shows now, and the clock must be able to show it. A
timer can be set for every moment that the clock can show. -/
def topology (estimator : Estimator) (now : Nat) (snapshot : Snapshot) : Inquiry TopologyIndex :=
  let seconds := estimator.config.syncLimit.toNat
  if clockRange < (now + 1000 * seconds) / 1000 then Inquiry.halt .clockRange
  else do
    let (index, elapsed) ← (Inquiry.within (1000 * seconds) (.timeout (.sync seconds))
      (estimator.provider.topology snapshot)).timed
    awaitReady index (1000 * seconds - elapsed)

/-- Answers whether a batch of workloads fits. When the estimate begins, the clock shows the
milliseconds at which it has been started. -/
def estimate (estimator : Estimator) (started : Nat) (batch : List Workload) : Inquiry Report :=
  if batch.isEmpty then Inquiry.fail (.input .emptyBatch)
  else do
    Inquiry.ofExcept (estimator.config.validate.mapError .config)
    let (snapshot, elapsed) ← estimator.snapshot.timed
    let index ← estimator.topology (started + elapsed) snapshot
    Inquiry.ofExcept (simulateWith estimator.chain snapshot index batch)

/-- Answers whether a number of equal workloads fits. -/
def estimateUniform (estimator : Estimator) (started count : Nat) (profile : Profile) :
    Inquiry Report :=
  if count = 0 then Inquiry.fail (.input .zeroCount)
  else if profile.cpuMillis.val < 0 || profile.memoryBytes.val < 0 then
    Inquiry.fail (.input .negativeRequests)
  else estimator.estimate started (profile.workloads count)

end Estimator

end Headroom
