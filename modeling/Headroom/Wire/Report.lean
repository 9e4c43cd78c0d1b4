import Headroom.Config
import Headroom.Report
import Headroom.Wire.Basic
/-!
# Configurations and reports on the wire

A verdict is told by a tag among its members. A report holds the members of its verdict beside its
own, so it has to be an object, and there the tag may also be a number.
-/

namespace Headroom

open Wire (decodeName? parts?)

instance : Wire TopologyMode where
  encode mode := .string mode.text
  decode? := decodeName? TopologyMode.ofString?

/-- The form of a configuration. -/
def Config.toJson (config : Config) : Json :=
  .object
    [("list_timeout_secs", Wire.encode config.listLimit),
      ("sync_timeout_secs", Wire.encode config.syncLimit),
      ("topology_mode", Wire.encode config.mode),
      ("pod_label_selector", Wire.encode config.podSelector)]

/-- Reads a configuration. -/
def Config.ofJson? (json : Json) : Option Config := do
  let parts ← parts? 4 json
  return { listLimit := ← parts.required 0 "list_timeout_secs"
           syncLimit := ← parts.required 1 "sync_timeout_secs"
           mode := ← parts.required 2 "topology_mode"
           podSelector := ← parts.optional 3 "pod_label_selector" }

instance : Wire Config where
  encode := Config.toJson
  decode? := Config.ofJson?

/-- What kind of verdict a tag tells. -/
inductive VerdictTag where
  | feasible
  | infeasible
deriving DecidableEq

namespace VerdictTag

/-- The written name of a tag. -/
def text : VerdictTag → String
  | feasible => "feasible"
  | infeasible => "infeasible"

/-- Both tags. -/
def all : List VerdictTag := [feasible, infeasible]

/-- The tag with a written name. -/
def ofString? (name : String) : Option VerdictTag := all.find? (·.text = name)

/-- Reads a tag by its name. -/
def decode? (json : Json) : Option VerdictTag := json.string?.bind ofString?

/-- Reads a tag by its name or by its number. -/
def decodeWide? : Json → Option VerdictTag
  | .int n => if 0 ≤ n then all[n.toNat]? else none
  | json => decode? json

end VerdictTag

namespace Verdict

/-- The members of a verdict. -/
def members : Verdict → List (String × Json)
  | feasible => [("verdict", .string VerdictTag.feasible.text)]
  | infeasible requested schedulable =>
      [("verdict", .string VerdictTag.infeasible.text), ("requested", Wire.encode requested),
        ("schedulable", Wire.encode schedulable)]

/-- The verdict of a tag, with the numbers among some members. -/
def ofMembers? (tag : VerdictTag) (members : List (String × Json)) : Option Verdict :=
  match tag with
  | .feasible => some .feasible
  | .infeasible => do
      return .infeasible (← (← members.lookup "requested").nat?)
        (← (← members.lookup "schedulable").nat?)

/-- The form of a verdict. -/
def toJson (verdict : Verdict) : Json := .object verdict.members

/-- Reads a verdict, with its parts by name or in order. -/
def ofJson? : Json → Option Verdict
  | .object members => do
      ofMembers? (← VerdictTag.decode? (← members.lookup "verdict")) members
  | .array [tag] => do
      match ← VerdictTag.decode? tag with
      | .feasible => return .feasible
      | .infeasible => none
  | .array [tag, requested, schedulable] => do
      match ← VerdictTag.decode? tag with
      | .feasible => none
      | .infeasible => return .infeasible (← requested.nat?) (← schedulable.nat?)
  | _ => none

end Verdict

instance : Wire Verdict where
  encode := Verdict.toJson
  decode? := Verdict.ofJson?

/-- The form of an assignment. -/
def Assignment.toJson (placement : Assignment) : Json :=
  .object
    [("index", Wire.encode placement.index), ("workload", Wire.encode placement.workload),
      ("node", Wire.encode placement.node)]

/-- Reads an assignment. -/
def Assignment.ofJson? (json : Json) : Option Assignment := do
  let parts ← parts? 3 json
  return { index := ← parts.required 0 "index"
           workload := ← parts.required 1 "workload"
           node := ← parts.required 2 "node" }

instance : Wire Assignment where
  encode := Assignment.toJson
  decode? := Assignment.ofJson?

/-- The form of a report: the members of its verdict, then its own. -/
def Report.toJson (report : Report) : Json :=
  .object
    (report.verdict.members ++ [("assignments", Wire.encode report.assignments)] ++
      report.firstUnplaced.toList.map fun index => ("first_unplaced", Wire.encode index))

/-- Reads a report. -/
def Report.ofJson? (json : Json) : Option Report := do
  let members ← json.object?
  let parts := Wire.Parts.named members
  let tag ← VerdictTag.decodeWide? (← members.lookup "verdict")
  return { verdict := ← Verdict.ofMembers? tag members
           assignments := ← parts.required 0 "assignments"
           firstUnplaced := ← parts.optional 1 "first_unplaced" }

instance : Wire Report where
  encode := Report.toJson
  decode? := Report.ofJson?

end Headroom
