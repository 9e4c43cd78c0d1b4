import Headroom.Admission.Affinity
import Headroom.Admission.Suitability
/-!
# Admission rules

A rule has three stages: it checks the form of the workload, it prepares for the search over the
nodes, and it judges one node at a time. Both earlier stages run once for each workload, so a
malformed workload is found even if there is no node. The rule between workloads checks the form
only when it prepares, but before it can be skipped. What a rule finds out while it prepares it
notes for the last stage. Besides the standard rules there are fixed rules whose answers are given
in advance.
-/

namespace Headroom

/-- What the rules of a chain have noted about a workload before the search. -/
structure Notes where
  affinityTerms : List AffinityTerm := []
deriving DecidableEq

/-- The rules that every estimate follows. -/
inductive StandardRule where
  | unschedulableExclusion
  | resourceFit
  | nodeAffinity
  | interWorkloadAffinity
  | taintToleration
deriving DecidableEq

namespace StandardRule

/-- The written name of a rule. -/
def name : StandardRule → String
  | unschedulableExclusion => "UnschedulableExclusion"
  | resourceFit => "ResourceFit"
  | nodeAffinity => "NodeAffinity"
  | interWorkloadAffinity => "InterWorkloadAffinity"
  | taintToleration => "TaintToleration"

/-- All rules in the order in which they are followed. -/
def all : List StandardRule :=
  [unschedulableExclusion, resourceFit, nodeAffinity, interWorkloadAffinity, taintToleration]

/-- The rule with a written name. -/
def ofString? (name : String) : Option StandardRule := all.find? (·.name = name)

/-- The fault that a rule finds in the form of a workload, first in a list first. -/
def check : StandardRule → Workload → Except WorkloadFault Unit
  | nodeAffinity, workload =>
      ((workload.nodeAffinity.getD []).forM NodeSelectorTerm.validate).mapError .nodeAffinity
  | interWorkloadAffinity, workload =>
      (workload.affinityTerms.forM AffinityTerm.validate).mapError .affinityTerm
  | taintToleration, workload =>
      (workload.tolerations.forM Toleration.validate).mapError .toleration
  | _, _ => .ok ()

/-- Whether a rule checks the form of a workload in the first stage, and not in the second. -/
def checksFirst : StandardRule → Bool
  | interWorkloadAffinity => false
  | _ => true

/-- Whether a rule has anything to say about a workload. -/
def applies : StandardRule → ClusterView → Workload → Bool
  | interWorkloadAffinity, view, workload => view.concerns workload
  | _, _, _ => true

/-- The notes once a rule that applies has prepared for a workload. -/
def note : StandardRule → Workload → Notes → Notes
  | interWorkloadAffinity, workload, notes =>
      { notes with affinityTerms := workload.affinityTerms }
  | _, _, notes => notes

/-- What a rule has against a node. -/
def obstacle? (rule : StandardRule) (view : ClusterView) (notes : Notes) (workload : Workload)
    (node : Node) : Option Reason :=
  match rule with
  | unschedulableExclusion => node.closure? workload
  | resourceFit => node.shortage? workload
  | nodeAffinity => node.mismatch? workload
  | interWorkloadAffinity => view.unsociable? notes.affinityTerms workload node
  | taintToleration => node.untolerated? workload

end StandardRule

/-- A rule with given answers. -/
structure FixedRule where
  name : String
  validation : Status := .success
  preparation : Status := .success
  /-- The answers for nodes by name. -/
  verdicts : Dict String Status := ∅
  /-- The answer for all other nodes. -/
  otherwise : Status := .success
deriving DecidableEq

/-- A rule of a chain. -/
inductive Rule where
  | standard (rule : StandardRule)
  | fixed (rule : FixedRule)
deriving DecidableEq

namespace Rule

/-- The name under which a rule turns workloads down. -/
def name : Rule → String
  | standard rule => rule.name
  | fixed rule => rule.name

/-- The answer of the first stage, about the form of a workload. -/
def validate : Rule → Workload → Status
  | standard rule, workload =>
      if rule.checksFirst then .ofCheck id (rule.check workload) else .success
  | fixed rule, _ => rule.validation

/-- The answer before the search over the nodes, and the notes from then on. A rule that skips
takes no part in the search and notes nothing. -/
def prepare : Rule → ClusterView → Workload → Notes → Status × Notes
  | standard rule, view, workload, notes =>
      match if rule.checksFirst then .ok () else rule.check workload with
      | .error fault => (.error fault, notes)
      | .ok _ =>
          if rule.applies view workload then (.success, rule.note workload notes)
          else (.skip, notes)
  | fixed rule, _, _, notes => (rule.preparation, notes)

/-- The answer about one node. -/
def judge : Rule → ClusterView → Notes → Workload → Node → Status
  | standard rule, view, notes, workload, node =>
      match rule.obstacle? view notes workload node with
      | some reason => .unschedulable reason
      | none => .success
  | fixed rule, _, _, _, node => (rule.verdicts.get? node.name).getD rule.otherwise

end Rule

end Headroom
