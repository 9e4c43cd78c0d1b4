import Headroom.CommandLine.Arguments
import Headroom.Estimate
import Headroom.Json.Printer
import Headroom.Wire.Report
import Headroom.Workload
/-!
# Running the command line

The arguments describe a profile and change the configuration that the environment asks for. The
profile is made first, then the configuration is checked, and only then the cluster is read.
-/

namespace Headroom.CommandLine

/-- Why the arguments describe no profile. -/
inductive ProfileFault where
  | negative
  | cpu (written : String) (error : ResourceError)
  | memory (written : String) (error : ResourceError)
deriving DecidableEq

/-- Why there is no answer. -/
inductive RunError where
  | profile (fault : ProfileFault)
  | connection (fault : ConfigFault)
  | estimate (halt : Halt)
deriving DecidableEq

/-- The fault in words. -/
def ProfileFault.message : ProfileFault → String
  | negative => "resource requests must not be negative"
  | cpu written error => "invalid cpu request " ++ written ++ ": " ++ error.message
  | memory written error => "invalid memory request " ++ written ++ ": " ++ error.message

/-- The error in words. -/
def RunError.message : RunError → String
  | profile fault => fault.message
  | connection fault =>
      "failed to connect to the Kubernetes cluster: " ++ (Failure.config fault).message
  | estimate (.failure failure) => "feasibility estimate failed: " ++ failure.message
  | estimate .clockRange => "the sync timeout is beyond the range of the clock"

namespace Arguments

/-- The profile of the workloads. Of several labels with one key the last counts. -/
def profile (arguments : Arguments) : Except ProfileFault Profile :=
  if arguments.cpu.isNegative || arguments.memory.isNegative then .error .negative
  else do
    let cpuMillis ← arguments.cpu.milliValue.mapError (.cpu arguments.cpu.text)
    let memoryBytes ← arguments.memory.value.mapError (.memory arguments.memory.text)
    return { cpuMillis, memoryBytes
             tolerations := arguments.tolerations
             nodeSelector := .ofList arguments.nodeSelector
             spreadBy := arguments.spreadBy }

/-- The configuration with the changes that the arguments ask for. -/
def config (arguments : Arguments) (base : Config) : Config :=
  { base with
    listLimit := arguments.listLimit.getD base.listLimit
    syncLimit := arguments.syncLimit.getD base.syncLimit
    mode := if arguments.liveTopology then .live else base.mode }

/-- What an estimate needs, if the arguments and the configuration make sense. -/
def prepare (arguments : Arguments) (config : Config) : Except RunError Profile := do
  let profile ← arguments.profile.mapError .profile
  config.validate.mapError .connection
  return profile

end Arguments

/-- The written form of a report. -/
def OutputFormat.write (format : OutputFormat) (report : Report) : String :=
  match format with
  | text => report.text
  | json => (Wire.encode report).renderIndented ++ "\n"

/-- The status with which the program ends: zero if the whole batch fits. -/
def exitStatus (report : Report) : Nat := if report.isFeasible then 0 else 1

end Headroom.CommandLine
