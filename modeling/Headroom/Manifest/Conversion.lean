import Headroom.Failure
import Headroom.Manifest.Basic
/-!
# Running pods as workloads

The requests of a pod are the sum over its containers, raised to the largest of its init containers
because these run alone, plus its overhead. Of its other wishes only the required terms for and
against other pods matter once it runs.
-/

namespace Headroom.Manifest

/-- The amounts of some quantities, checked in the order of the names. -/
def Quantities.amounts (quantities : Quantities) : Except ResourceError ResourceList :=
  quantities.entries.foldlM
    (fun (list : ResourceList) entry => do
      let name ← ResourceName.ofString? entry.1
      let quantity ← Quantity.parse entry.2
      list.insertQuantity name quantity)
    ∅

/-- What a pod takes from its node. -/
def PodSpec.effectiveRequests (spec : PodSpec) : Except ResourceError ResourceList := do
  let total ← spec.containers.foldlM
    (fun (total : ResourceList) requests => do return total.add (← requests.amounts)) ∅
  let raised ← spec.initContainers.foldlM
    (fun (total : ResourceList) requests => do return total.maxWith (← requests.amounts)) total
  return raised.add (← spec.overhead.amounts)

/-- An operator that no requirement has, under the key where it stands. -/
structure UnknownOperator where
  key : String
  operator : String
deriving DecidableEq

/-- The requirement that an expression states. -/
def Expression.requirement (expression : Expression) : Except UnknownOperator Requirement :=
  match Operator.ofString? expression.operator with
  | some operator => .ok { key := expression.key, operator, values := expression.values }
  | none => .error { key := expression.key, operator := expression.operator }

/-- The label selector that a manifest states. -/
def Selector.toLabelSelector (selector : Selector) : Except UnknownOperator LabelSelector := do
  return { labels := selector.labels
           requirements := ← selector.expressions.mapM Expression.requirement }

/-- The terms of one kind. A term without a selector selects no pod and is left out. -/
def affinityTerms (kind : AffinityKind) (terms : List PodTerm) :
    Except UnknownOperator (List AffinityTerm) :=
  (terms.filterMap fun term => term.selector.map fun selector => (selector, term.topologyKey)).mapM
    fun (selector, topologyKey) => do
      return { selector := ← selector.toLabelSelector, topologyKey, kind }

namespace Pod

/-- The workload that a pod runs, or what is wrong with the pod. -/
def toWorkload (pod : Pod) : Except RetrievalError Workload :=
  match pod.spec with
  | none => .ok { name := pod.displayName, labels := pod.labels }
  | some spec => do
      let requests ← spec.effectiveRequests.mapError (.podResource pod.displayName)
      let terms ← (do return (← affinityTerms .required spec.attracted)
          ++ (← affinityTerms .forbidden spec.repelled) :
            Except UnknownOperator (List AffinityTerm)).mapError
        fun unknown => .podSelector pod.displayName unknown.key unknown.operator
      return { name := pod.displayName, labels := pod.labels, requests, affinityTerms := terms }

end Pod

end Headroom.Manifest
