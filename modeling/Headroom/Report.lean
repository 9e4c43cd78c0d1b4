import Headroom.Text.Integer
/-!
# Reports

A report says whether a whole batch of workloads can be placed, where each of them went, and which
was the first that fits nowhere.
-/

namespace Headroom

/-- The answer for a whole batch. -/
inductive Verdict where
  | feasible
  | infeasible (requested schedulable : Nat)
deriving DecidableEq

/-- A workload, by its place in the batch and its name, on the node of a name. -/
structure Assignment where
  index : Nat
  workload : String
  node : String
deriving DecidableEq

/-- The answer for a batch with the placements made. -/
structure Report where
  verdict : Verdict
  assignments : List Assignment
  /-- The place in the batch of the first workload that fits nowhere. -/
  firstUnplaced : Option Nat
deriving DecidableEq

/-- The verdict in words. -/
def Verdict.text : Verdict → String
  | feasible => "all the pods can be scheduled"
  | infeasible requested schedulable =>
      "unable to schedule all the pods, requested: " ++ String.ofList (Text.ofNat requested) ++
        ", schedulable: " ++ String.ofList (Text.ofNat schedulable)

namespace Report

/-- Whether the whole batch was placed. -/
def isFeasible (report : Report) : Bool := report.verdict = .feasible

/-- A line for each placement, and the verdict on the last line. -/
def text (report : Report) : String :=
  String.join (report.assignments.map fun placement =>
    placement.workload ++ " -> " ++ placement.node ++ "\n") ++ report.verdict.text ++ "\n"

end Report

end Headroom
