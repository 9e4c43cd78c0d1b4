import Headroom.Admission.Status
import Headroom.Text.Seconds
/-!
# Failures

An estimate fails when the cluster cannot be read, in time or at all, when its state or a workload
makes no sense, or when the question itself is refused. That workloads do not fit is no failure.
-/

namespace Headroom

/-- Why the state of the cluster could not be used. -/
inductive RetrievalError where
  | unnamedNode
  | nodeResource (node : String) (error : ResourceError)
  | nodeTaint (node effect : String)
  | podResource (pod : String) (error : ResourceError)
  | podSelector (pod key operator : String)
  | selector (key operator : String)
  /-- The listing itself says why it failed. -/
  | stated (message : String)
deriving DecidableEq

/-- What was not done in time. -/
inductive Delay where
  | listing (seconds : Nat)
  | sync (seconds : Nat)
  | readiness (milliseconds : Nat)
deriving DecidableEq

/-- Why the running workloads could not be watched. -/
inductive SyncError where
  | refused (code : Nat)
  | ended
deriving DecidableEq

/-- Why a question is refused. -/
inductive InputFault where
  | emptyBatch
  | zeroCount
  | negativeRequests
deriving DecidableEq

/-- Why a configuration is refused. -/
inductive ConfigFault where
  | listLimit
  | syncLimit
deriving DecidableEq

/-- Why there is no estimate. -/
inductive Failure where
  | api (code : Nat)
  | retrieval (error : RetrievalError)
  | timeout (delay : Delay)
  | topologySync (error : SyncError)
  | admission (workload : String) (rejection : Rejection)
  | input (fault : InputFault)
  | config (fault : ConfigFault)
  | resource (error : ResourceError)
deriving DecidableEq

/-- The fault in words. -/
def InputFault.message : InputFault → String
  | emptyBatch => "at least one workload is required"
  | zeroCount => "pod count must be positive"
  | negativeRequests => "resource requests must not be negative"

/-- The fault in words. -/
def ConfigFault.message : ConfigFault → String
  | listLimit => "list timeout must be at least one second"
  | syncLimit => "sync timeout must be at least one second"

/-- What was late, in words. -/
def Delay.message : Delay → String
  | listing limit =>
      "listing nodes and pods took longer than " ++ String.ofList (Text.ofNat limit) ++ "s"
  | sync limit => "topology sync took longer than " ++ String.ofList (Text.ofNat limit) ++ "s"
  | readiness waited => "topology index not ready after " ++ Text.seconds waited ++ "s"

/-- The error in words. -/
def SyncError.message : SyncError → String
  | refused code => "the pod watch was answered with status " ++ String.ofList (Text.ofNat code)
  | ended => "pod watch ended before the initial sync completed"

private def unknownOperator (key operator : String) : String :=
  "unknown selector operator " ++ Text.quoted operator ++ " for " ++ key

private def retrieving (message : String) : String :=
  "Failed to retrieve cluster state: " ++ message

private def resourceText (error : ResourceError) : String := "Resource error: " ++ error.message

/-- The error in words. -/
def RetrievalError.message : RetrievalError → String
  | unnamedNode => "node without a name"
  | nodeResource node error => "node " ++ node ++ ": " ++ resourceText error
  | nodeTaint node effect => "node " ++ node ++ ": unknown taint effect " ++ Text.quoted effect
  | podResource pod error => "pod " ++ pod ++ ": " ++ resourceText error
  | podSelector pod key operator =>
      "pod " ++ pod ++ ": " ++ retrieving (unknownOperator key operator)
  | selector key operator => unknownOperator key operator
  | stated message => message

namespace Failure

/-- The failure in words. -/
def message : Failure → String
  | api code => "Kubernetes API error: status " ++ String.ofList (Text.ofNat code)
  | retrieval error => retrieving error.message
  | timeout delay => "Timeout: " ++ delay.message
  | topologySync error => "Topology index sync failed: " ++ error.message
  | admission workload rejection =>
      "Predicate " ++ rejection.rule ++ " failed for workload " ++ workload ++ ": "
        ++ rejection.status.text
  | input fault => "Invalid input: " ++ fault.message
  | config fault => "Configuration error: " ++ fault.message
  | resource error => resourceText error

/-- Whether the same question may succeed later: the cluster was out of reach or slow. -/
def isRetriable : Failure → Bool
  | api _ | timeout _ | topologySync _ => true
  | _ => false

end Failure

end Headroom
