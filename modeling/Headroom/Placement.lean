import Headroom.Admission.Chain
import Headroom.Failure
import Headroom.Report
/-!
# First-fit placement

The workloads of a batch are placed one after the other, each on the first node in listing order
that the chain accepts in the state left by those before. Nothing is taken back: the first workload
that fits nowhere ends the run, and so does the first malformed one. What was placed stays placed.
-/

namespace Headroom

/-- The state of one run over a batch. -/
structure Session where
  batch : List Workload
  snapshot : Snapshot
  index : TopologyIndex
  assignments : List Assignment := []
  firstUnplaced : Option Nat := none
deriving DecidableEq

namespace Session

/-- The state before anything is placed. -/
def start (snapshot : Snapshot) (index : TopologyIndex) (batch : List Workload) : Session :=
  { batch, snapshot, index }

/-- What the rules see. -/
def view (session : Session) : ClusterView :=
  { nodes := session.snapshot.nodes, index := session.index }

/-- The verdict so far. -/
def verdict (session : Session) : Verdict :=
  match session.firstUnplaced with
  | none => .feasible
  | some _ => .infeasible session.batch.length session.assignments.length

/-- The report of the state. -/
def report (session : Session) : Report :=
  { verdict := session.verdict
    assignments := session.assignments
    firstUnplaced := session.firstUnplaced }

/-- The first acceptable node of a list whose first node stands at `position`. An objection that
calls the workload malformed ends the search. -/
def search (prepared : Prepared) (view : ClusterView) (workload : Workload) (position : Nat) :
    List Node → Except Rejection (Option (Nat × Node))
  | [] => .ok none
  | node :: rest =>
      match prepared.judge view workload node with
      | .ok _ => .ok (some (position, node))
      | .error rejection =>
          if rejection.status.isError then .error rejection
          else search prepared view workload (position + 1) rest

/-- The place for a workload in this state, if there is one. -/
def locate (session : Session) (chain : Chain) (workload : Workload) :
    Except Rejection (Option (Nat × Node)) := do
  let prepared ← chain.prepare session.view workload
  search prepared session.view workload 0 session.snapshot.nodes

/-- Puts the workload whose turn it is on the node at a position. -/
def place (session : Session) (turn : Nat) (workload : Workload) (position : Nat) (node : Node) :
    Session :=
  { session with
    snapshot :=
      { session.snapshot with
        nodes := session.snapshot.nodes.set position (node.place workload) }
    assignments := session.assignments ++
      [{ index := turn, workload := workload.name, node := node.name }] }

/-- The state once the workload whose turn it is has been found to fit nowhere. -/
def giveUp (session : Session) (turn : Nat) : Session := { session with firstUnplaced := some turn }

/-- Places some workloads in order, as far as the run goes. Turns are counted on from that of the
first of them. -/
def placeAll (chain : Chain) : Nat → List Workload → Session → Session × Except Failure Unit
  | _, [], session => (session, .ok ())
  | turn, workload :: rest, session =>
      match session.locate chain workload with
      | .error rejection => (session, .error (.admission workload.name rejection))
      | .ok none => (session.giveUp turn, .ok ())
      | .ok (some (position, node)) =>
          placeAll chain (turn + 1) rest (session.place turn workload position node)

/-- Places the batch of a session that has just been started. -/
def run (chain : Chain) (session : Session) : Session × Except Failure Unit :=
  placeAll chain 0 session.batch session

end Session

/-- Runs a chain of rules over a snapshot and reports. -/
def simulateWith (chain : Chain) (snapshot : Snapshot) (index : TopologyIndex)
    (batch : List Workload) : Except Failure Report :=
  match (Session.start snapshot index batch).run chain with
  | (session, .ok _) => .ok session.report
  | (_, .error failure) => .error failure

/-- Runs the standard chain over a snapshot and reports. -/
def simulate (snapshot : Snapshot) (index : TopologyIndex) (batch : List Workload) :
    Except Failure Report :=
  simulateWith .standard snapshot index batch

end Headroom
