import Headroom.Admission.Status
import Headroom.Admission.View
/-!
# Rules between workloads

A required term wants a matching workload in the domain of the node, a forbidden term wants none
there. Workloads that are already there have forbidden terms as well, and keep the newcomer out of
their own domains.
-/

namespace Headroom.ClusterView

/-- Whether some workload in a domain is selected. -/
def attracts (view : ClusterView) (selector : LabelSelector) (key value : String) : Bool :=
  (view.hostedIn key value).any fun workload => selector.selects workload.labels

/-- Whether a workload may open a group: nothing is selected anywhere yet, but it would be. -/
def mayOpen (view : ClusterView) (selector : LabelSelector) (workload : Workload) : Bool :=
  !(view.allHosted.any fun other => selector.selects other.labels) &&
    selector.selects workload.labels

/-- What a required term has against a node. The node needs the label of the domain. -/
def unmet? (view : ClusterView) (workload : Workload) (term : AffinityTerm) (node : Node) :
    Option Reason :=
  match node.labels.get? term.topologyKey with
  | none => some .affinity
  | some value =>
      if view.attracts term.selector term.topologyKey value || view.mayOpen term.selector workload
      then none else some .affinity

/-- What a forbidden term has against a node. A node without the label is in no domain. -/
def conflict? (view : ClusterView) (term : AffinityTerm) (node : Node) : Option Reason :=
  match node.labels.get? term.topologyKey with
  | none => none
  | some value =>
      if view.attracts term.selector term.topologyKey value then some .antiAffinity else none

/-- What a term of the workload has against a node. -/
def obstacle? (view : ClusterView) (workload : Workload) (node : Node) (term : AffinityTerm) :
    Option Reason :=
  match term.kind with
  | .required => view.unmet? workload term node
  | .forbidden => view.conflict? term node

/-- Whether a term of a workload on `host` keeps a workload off a node of the same domain. -/
def repels (host node : Node) (workload : Workload) (term : AffinityTerm) : Bool :=
  (node.labels.get? term.topologyKey).isSome &&
    node.labels.get? term.topologyKey = host.labels.get? term.topologyKey &&
    term.selector.selects workload.labels

/-- Whether some workload that is already there keeps a workload off a node. -/
def isRepelled (view : ClusterView) (workload : Workload) (node : Node) : Bool :=
  view.nodes.any fun host =>
    (view.hosted host).any fun other =>
      other.forbiddenTerms.any (repels host node workload)

/-- What the terms of the newcomer, and the workloads that are there, have against a node. -/
def unsociable? (view : ClusterView) (terms : List AffinityTerm) (workload : Workload)
    (node : Node) : Option Reason :=
  (terms.findSome? (view.obstacle? workload node)).or
    (if view.isRepelled workload node then some .repelled else none)

/-- Whether terms between workloads can matter: the newcomer has some, or others repel. -/
def concerns (view : ClusterView) (workload : Workload) : Bool :=
  !workload.affinityTerms.isEmpty || view.placed.any (fun other => !other.forbiddenTerms.isEmpty) ||
    view.index.hasAntiAffinity

end Headroom.ClusterView
