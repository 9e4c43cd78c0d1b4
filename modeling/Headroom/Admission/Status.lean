import Headroom.Workload
/-!
# Answers of admission rules

A rule lets a node pass, is skipped, turns the node down for a reason, or finds the workload itself
malformed. Only the last is an error.
-/

namespace Headroom

/-- Why a node is turned down. -/
inductive Reason where
  | consumed
  | cordoned
  | tooManyPods
  | insufficient (resource : ResourceName)
  | nodeSelection
  | affinity
  | antiAffinity
  /-- A workload that is already there repels the candidate. -/
  | repelled
  | untolerated (taint : Taint)
  | stated (text : String)
deriving DecidableEq

/-- Why a workload is malformed. -/
inductive WorkloadFault where
  | nodeAffinity (fault : RequirementFault)
  | affinityTerm (fault : AffinityFault)
  | toleration (fault : TolerationFault)
  | stated (text : String)
deriving DecidableEq

/-- The answer of one stage of a rule. -/
inductive Status where
  | success
  | skip
  | unschedulable (reason : Reason)
  | error (fault : WorkloadFault)
deriving DecidableEq

/-- The reason in words. -/
def Reason.message : Reason → String
  | consumed => "node(s) already received a proposed workload"
  | cordoned => "node(s) were unschedulable"
  | tooManyPods => "Too many pods"
  | insufficient resource => "Insufficient " ++ resource.text
  | nodeSelection => "node(s) didn't match Pod's node affinity/selector"
  | affinity => "node(s) didn't match pod affinity rules"
  | antiAffinity => "node(s) didn't match pod anti-affinity rules"
  | repelled => "node(s) didn't satisfy existing pods anti-affinity rules"
  | untolerated taint => "node(s) had untolerated taint " ++ taint.text
  | stated text => text

/-- The fault in words. -/
def WorkloadFault.message : WorkloadFault → String
  | nodeAffinity fault => fault.message
  | affinityTerm fault => fault.message
  | toleration fault => fault.message
  | stated text => text

namespace Status

/-- The reason or fault in words, if there is one. -/
def message? : Status → Option String
  | success | skip => none
  | unschedulable reason => some reason.message
  | error fault => some fault.message

/-- The answer in words. -/
def text : Status → String
  | success => "Success"
  | skip => "Skip"
  | unschedulable reason => "Unschedulable: " ++ reason.message
  | error fault => "Error: " ++ fault.message

/-- Whether the workload was found malformed. -/
def isError : Status → Bool
  | error _ => true
  | _ => false

/-- The answer to a check of the form of a workload. -/
def ofCheck {ε : Type} (fault : ε → WorkloadFault) : Except ε Unit → Status
  | .ok _ => success
  | .error found => error (fault found)

end Status

/-- The answer that stopped a chain of rules, and the rule that gave it. -/
structure Rejection where
  rule : String
  status : Status
deriving DecidableEq

end Headroom
