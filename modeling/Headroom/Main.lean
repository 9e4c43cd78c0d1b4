import Headroom.CommandLine.Run
import Headroom.Json.Parser
import Headroom.Manifest.Reader
import Headroom.Provider.Memory
/-!
# The program

The cluster is read from the standard input, as a JSON object with the lists `nodes` and `pods`. The
report goes to the standard output and everything else to the standard error.
-/

namespace Headroom.Main

/-- How the program is used. -/
def usage : String :=
  "Usage: headroom [--debug] estimate --count <COUNT> --cpu <CPU> --memory <MEMORY> [OPTIONS]\n"

/-- The version of the program. -/
def version : String := "headroom 0.1.0\n"

/-- The cluster that a text describes. -/
def readCluster (text : String) : Option MemoryCluster := do
  let json ← Json.parse? text
  return { nodes := ← Manifest.items? Manifest.Node.ofJson? "nodes" json
           pods := ← Manifest.items? Manifest.Pod.ofJson? "pods" json }

/-- What the program writes to its two outputs, and the status with which it ends. -/
structure Outcome where
  output : String := ""
  errors : String := ""
  status : Nat

/-- What the program does about a refused command line. -/
def refuse : CommandLine.UsageError → Outcome
  | .helpWanted => { output := usage, status := 0 }
  | .versionWanted => { output := version, status := 0 }
  | .nothingAsked => { errors := usage, status := 2 }
  | error => { errors := "error: " ++ error.message ++ "\n\n" ++ usage, status := 2 }

/-- What the program does about an estimate that ends without a report. -/
def abandon (error : CommandLine.RunError) : Outcome :=
  { errors := "Error: " ++ error.message ++ "\n", status := 1 }

/-- Answers for a cluster, started at the milliseconds that the clock shows. -/
def answer (arguments : CommandLine.Arguments) (config : Config) (cluster : MemoryCluster)
    (started : Nat) : Outcome :=
  match arguments.prepare config with
  | .error error => abandon error
  | .ok profile =>
      let estimator : Estimator := { provider := cluster.provider, config }
      match (estimator.estimateUniform started arguments.count profile).result with
      | .error halt => abandon (.estimate halt)
      | .ok report =>
          { output := arguments.output.write report, status := CommandLine.exitStatus report }

end Headroom.Main

open Headroom in
/-- Reads the command line, the environment and the cluster, and writes the outcome. -/
def main (words : List String) : IO UInt32 := do
  let limits ← ["CASSCTL_LIST_TIMEOUT_SECS", "CASSCTL_SYNC_TIMEOUT_SECS", "CASSCTL_TOPOLOGY_MODE",
    "CASSCTL_POD_LABEL_SELECTOR"].mapM fun name => do return (name, ← IO.getEnv name)
  let base := Config.ofEnvironment fun name => (limits.lookup name).join
  let outcome : Main.Outcome ← match CommandLine.read ("headroom" :: words) with
    | .error error => pure (Main.refuse error)
    | .ok arguments => do
        let text ← (← IO.getStdin).readToEnd
        match Main.readCluster text with
        | none => pure { errors := "Error: the cluster cannot be read\n", status := 1 }
        | some cluster =>
            let started ← IO.monoMsNow
            pure (Main.answer arguments (arguments.config base) cluster started)
  IO.print outcome.output
  IO.eprint outcome.errors
  return outcome.status.toUInt32
