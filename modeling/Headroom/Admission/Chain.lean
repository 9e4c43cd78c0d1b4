import Headroom.Admission.Rule
/-!
# Chains of rules

A chain follows its rules in order and stops at the first that objects. The order decides which rule
is named, never whether a node is turned down.
-/

namespace Headroom

/-- Rules in the order in which they are followed. -/
abbrev Chain := List Rule

namespace Rule

/-- The objection that an answer amounts to. -/
def object (rule : Rule) (status : Status) : Rejection := { rule := rule.name, status }

/-- Both stages before the search: whether the rule takes part in it and the notes from then on,
or the objection of the rule. -/
def takesPart (rule : Rule) (view : ClusterView) (workload : Workload) (notes : Notes) :
    Except Rejection (Bool × Notes) :=
  match rule.validate workload with
  | .success =>
      match rule.prepare view workload notes with
      | (.success, noted) => .ok (true, noted)
      | (.skip, noted) => .ok (false, noted)
      | (status, _) => .error (rule.object status)
  | status => .error (rule.object status)

/-- Judges a node by one rule, which accepts it or objects. -/
def accept (rule : Rule) (view : ClusterView) (notes : Notes) (workload : Workload)
    (node : Node) : Except Rejection Unit :=
  match rule.judge view notes workload node with
  | .success | .skip => .ok ()
  | status => .error (rule.object status)

end Rule

/-- The rules that take part in the search for a workload, and what has been noted for them. -/
structure Prepared where
  rules : Chain := []
  notes : Notes := {}
deriving DecidableEq

namespace Chain

/-- The chain that every estimate follows. -/
def standard : Chain := StandardRule.all.map .standard

/-- Runs the stages before the search from given notes on, up to the first objection. -/
def prepareFrom (view : ClusterView) (workload : Workload) :
    Chain → Notes → Except Rejection Prepared
  | [], notes => .ok { rules := [], notes }
  | rule :: rest, notes => do
      let (needed, noted) ← rule.takesPart view workload notes
      let others ← prepareFrom view workload rest noted
      return { others with rules := if needed then rule :: others.rules else others.rules }

/-- Runs the stages before the search, which start without notes. -/
def prepare (chain : Chain) (view : ClusterView) (workload : Workload) :
    Except Rejection Prepared :=
  chain.prepareFrom view workload {}

end Chain

/-- Judges one node by all rules; the first objection counts. -/
def Prepared.judge (prepared : Prepared) (view : ClusterView) (workload : Workload)
    (node : Node) : Except Rejection Unit :=
  prepared.rules.forM fun rule => rule.accept view prepared.notes workload node

end Headroom
