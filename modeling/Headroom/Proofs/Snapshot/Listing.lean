import Headroom.Proofs.Manifest.Requests
import Headroom.Proofs.Placement.Indifference
import Headroom.Proofs.Topology.Sync
/-!
# Pods in any order

Sums that stop at the bounds depend on their order as soon as amounts of both signs are in them.
While no quantity is negative, a snapshot comes out with the same nodes for every order in which the
pods are listed (`Snapshot.reorders_of_build`). Only the list of running workloads shows the order,
and with it the index, but a run asks neither for it: the answer stays the same
(`simulate_eq_of_listing_perm`).
-/

namespace Headroom

variable {nodes : List Manifest.Node} {pods others : List Manifest.Pod} {pod : Manifest.Pod}
  {entry : String × Workload} {snapshot other : Snapshot}
  {ordered shuffled : List (String × Workload)} {left right : Workload}
  {workloads : List Workload} {chain : Chain} {index : TopologyIndex} {batch : List Workload}

/-! ## What the pods of a listing run -/

namespace Manifest.Pod

/-- What the pods that count run, each under the name of its node, in listing order. -/
def entries (nodes : List Manifest.Node) (pods : List Manifest.Pod) :
    List (String × Workload) :=
  (pods.filter (·.Counts nodes)).filterMap fun pod => pod.entry.toOption

theorem mem_entries_iff :
    entry ∈ entries nodes pods ↔
      ∃ pod ∈ pods, pod.Counts nodes ∧ pod.entry = .ok entry := by
  have to_option : ∀ pod : Manifest.Pod,
      pod.entry.toOption = some entry ↔ pod.entry = .ok entry := by
    intro pod
    cases pod.entry <;> simp [Except.toOption]
  simp only [entries, List.mem_filterMap, List.mem_filter, decide_eq_true_eq, to_option, and_assoc]

theorem entries_perm (nodes : List Manifest.Node) (same : pods.Perm others) :
    (entries nodes pods).Perm (entries nodes others) :=
  (same.filter _).filterMap _

theorem entries_append (nodes : List Manifest.Node) (early late : List Manifest.Pod) :
    entries nodes (early ++ late) = entries nodes early ++ entries nodes late := by
  rw [entries, List.filter_append, List.filterMap_append]
  rfl

theorem entries_cons_of_not_counts (passed : ¬pod.Counts nodes) (late : List Manifest.Pod) :
    entries nodes (pod :: late) = entries nodes late := by
  rw [entries, List.filter_cons_of_neg (by simpa using passed)]
  rfl

theorem entries_cons_of_counts (counts : pod.Counts nodes) (converted : pod.entry = .ok entry)
    (late : List Manifest.Pod) : entries nodes (pod :: late) = entry :: entries nodes late := by
  rw [entries, List.filter_cons_of_pos (by simpa using counts),
    List.filterMap_cons_some (by rw [converted]; rfl)]
  rfl

/-- What runs takes nothing negative if the pods that count have no negative quantity. -/
theorem requests_nonNegative_of_mem_entries
    (positive : ∀ pod ∈ pods, pod.Counts nodes → pod.NonNegative)
    (member : entry ∈ entries nodes pods) : entry.2.requests.NonNegative := by
  obtain ⟨pod, listed, counts, converted⟩ := mem_entries_iff.mp member
  exact (positive pod listed counts).requests_nonNegative (counts.runsAs converted).1.converted

end Manifest.Pod

theorem Snapshot.eq_bindAll_of_build (built : build nodes pods = .ok snapshot) :
    ∃ records, nodes.mapM Node.ofManifest = .ok records ∧
      snapshot = (ofNodes records).bindAll (Manifest.Pod.entries nodes pods) ∧
        snapshot.running = Manifest.Pod.entries nodes pods := by
  obtain ⟨records, entries, converted, taken, rfl⟩ := build_eq_ok_iff.mp built
  have same : entries = Manifest.Pod.entries nodes pods := eq_filterMap_of_mapM taken
  have runs := running_of_mapM_entry converted taken
  rw [same] at runs ⊢
  exact ⟨records, converted, rfl, runs⟩

/-! ## Binding in another order -/

namespace Node

theorem bind_right_comm (node : Node) (positive : left.requests.NonNegative)
    (others : right.requests.NonNegative) :
    (node.bind left).bind right = (node.bind right).bind left := by
  have totals := node.allocated.add_right_comm positive others
  show { node with
    allocated := (node.allocated.add left.requests).add right.requests
    runningPods := node.runningPods + 1 + 1 } = _
  rw [totals]
  rfl

theorem bindAll_eq_of_perm {others : List Workload} (same : workloads.Perm others)
    (positive : ∀ workload ∈ workloads, workload.requests.NonNegative) (node : Node) :
    node.bindAll workloads = node.bindAll others := by
  refine same.foldl_eq' (fun left early right late start => ?_) node
  exact bind_right_comm start (positive left early) (positive right late)

end Node

namespace Snapshot

theorem nodes_bindAll_eq_of_perm (same : ordered.Perm shuffled)
    (positive : ∀ entry ∈ ordered, entry.2.requests.NonNegative) (snapshot : Snapshot) :
    (snapshot.bindAll ordered).nodes = (snapshot.bindAll shuffled).nodes := by
  refine List.ext_getElem? fun position => ?_
  rw [nodes_bindAll, nodes_bindAll]
  congr 1
  funext node
  refine Node.bindAll_eq_of_perm ((same.filter _).map _) (fun workload member => ?_) node
  obtain ⟨entry, found, rfl⟩ := List.mem_map.mp member
  exact positive entry (List.mem_of_mem_filter found)

/-- Two snapshots with the same nodes, on which the same workloads run in some order. -/
structure Reorders (snapshot other : Snapshot) : Prop where
  nodes_eq : other.nodes = snapshot.nodes
  running_perm : snapshot.running.Perm other.running

theorem reorders_of_build (same : pods.Perm others)
    (positive : ∀ pod ∈ pods, pod.Counts nodes → pod.NonNegative)
    (built : build nodes pods = .ok snapshot) (rebuilt : build nodes others = .ok other) :
    snapshot.Reorders other := by
  obtain ⟨records, converted, made, runs⟩ := eq_bindAll_of_build built
  obtain ⟨again, reconverted, remade, reruns⟩ := eq_bindAll_of_build rebuilt
  rw [converted] at reconverted
  cases reconverted
  have moved := Manifest.Pod.entries_perm nodes same
  refine ⟨?_, ?_⟩
  · rw [made, remade]
    refine (nodes_bindAll_eq_of_perm moved (fun entry member => ?_) _).symm
    exact Manifest.Pod.requests_nonNegative_of_mem_entries positive member
  · rw [runs, reruns]
    exact moved

end Snapshot

/-! ## Runs over reordered snapshots -/

namespace Session

/-- The session with another list of running workloads. -/
def withRunning (session : Session) (running : List (String × Workload)) : Session :=
  { session with snapshot := { session.snapshot with running } }

/-- A run asks the nodes and the index, but not what runs in the snapshot. -/
theorem placeAll_withRunning (turn : Nat) (session : Session)
    (running : List (String × Workload)) :
    placeAll chain turn batch (session.withRunning running) =
      (placeAll chain turn batch session).map (·.withRunning running) id :=
  placeAll_map (·.withRunning running) (P := fun _ => True) (fun _ _ _ => rfl)
    (fun _ _ _ _ _ => rfl) (fun _ _ => rfl) (fun _ _ _ _ _ _ _ => trivial) trivial

end Session

theorem simulateWith_eq_of_nodes_eq (same : other.nodes = snapshot.nodes) :
    simulateWith chain other index batch = simulateWith chain snapshot index batch := by
  have changed : Session.start other index batch =
      (Session.start snapshot index batch).withRunning other.running := by
    show ({ batch, snapshot := other, index } : Session) =
      { batch, snapshot := { nodes := snapshot.nodes, running := other.running }, index }
    rw [← same]
  have run_eq : (Session.start other index batch).run chain =
      ((Session.start snapshot index batch).run chain).map (·.withRunning other.running) id := by
    rw [changed]
    exact Session.placeAll_withRunning 0 (Session.start snapshot index batch) other.running
  unfold simulateWith
  rw [run_eq]
  obtain ⟨final, outcome⟩ := (Session.start snapshot index batch).run chain
  cases outcome <;> rfl

/-- Under each name the indexes of reordered snapshots hold the same workloads. -/
theorem Snapshot.Reorders.imprints_eq (reorders : snapshot.Reorders other) (name : String) :
    (TopologyIndex.ofSnapshot snapshot).imprints name =
      (TopologyIndex.ofSnapshot other).imprints name := by
  refine TopologyIndex.imprints_eq_of_rewords (.single (.permute ?_))
  rw [TopologyIndex.workloadsOn_ofSnapshot, TopologyIndex.workloadsOn_ofSnapshot]
  exact (reorders.running_perm.filter _).map _

theorem Snapshot.Reorders.simulate_eq (reorders : snapshot.Reorders other)
    (batch : List Workload) :
    simulate other (.ofSnapshot other) batch = simulate snapshot (.ofSnapshot snapshot) batch := by
  have alike : (Session.start snapshot (.ofSnapshot snapshot) batch).Matches (.ofSnapshot other) :=
    fun node _ => reorders.imprints_eq node.name
  have interchangeable : (TopologyIndex.ofSnapshot snapshot).Interchangeable (.ofSnapshot other)
      .standard snapshot batch := alike.interchangeable
  calc simulate other (.ofSnapshot other) batch
      = simulate snapshot (.ofSnapshot other) batch :=
        simulateWith_eq_of_nodes_eq reorders.nodes_eq
    _ = simulate snapshot (.ofSnapshot snapshot) batch := interchangeable.simulateWith_eq

/-- **The order of the pods does not matter.** List the same pods in two orders, and let none of
those that count have a negative quantity. There is a snapshot for one order exactly if there is one
for the other. The two have the same nodes, with the same totals, and every batch comes to the same
report or the same failure on both, each with its own index. -/
theorem simulate_eq_of_listing_perm (same : pods.Perm others)
    (positive : ∀ pod ∈ pods, pod.Counts nodes → pod.NonNegative) :
    ((∃ snapshot, Snapshot.build nodes pods = .ok snapshot) ↔
      ∃ other, Snapshot.build nodes others = .ok other) ∧
    ∀ snapshot other, Snapshot.build nodes pods = .ok snapshot →
      Snapshot.build nodes others = .ok other → snapshot.Reorders other ∧
        ∀ batch, simulate other (.ofSnapshot other) batch =
          simulate snapshot (.ofSnapshot snapshot) batch := by
  constructor
  · simp only [Snapshot.exists_build_eq_ok_iff, same.mem_iff]
  · intro snapshot other built rebuilt
    have reorders := Snapshot.reorders_of_build same positive built rebuilt
    exact ⟨reorders, reorders.simulate_eq⟩

namespace Sample

/-- A pod that asks for memory. -/
def hoardingPod (name node memory : String) : Manifest.Pod :=
  { name := some name
    spec := some { node := some node, containers := [Dict.insert ∅ "memory" memory] } }

/-- A pod that wants no other cache on its host. -/
def jealousPod (name node : String) : Manifest.Pod :=
  { name := some name
    spec := some
      { node := some node
        repelled := [{ selector := some { labels := Dict.insert ∅ "app" "cache" }
                       topologyKey := "host" }] } }

def vastNode (name : String) : Manifest.Node :=
  { name := some name
    labels := Dict.insert ∅ "host" name
    allocatable := Dict.insert ∅ "memory" "7Ei" }

def vastNodes : List Manifest.Node := [vastNode "a", vastNode "b", vastNode "c"]

/-- The memory asked for on the first node cannot be counted, and a pod that has finished has a
negative quantity. -/
def crowd : List Manifest.Pod :=
  [hoardingPod "x" "a" "7Ei", { hoardingPod "y" "a" "-1" with phase := some "Failed" },
    jealousPod "z" "b", hoardingPod "w" "a" "6Ei"]

def smallCache : Workload :=
  { name := "cache"
    labels := Dict.insert ∅ "app" "cache"
    requests := Dict.insert ∅ .memory (.clamp 1) }

/-- Listed backwards, the pods leave the same node to a cache. -/
theorem simulate_eq_of_listing_perm_crowd :
    crowd.Perm crowd.reverse ∧
    (∀ pod ∈ crowd, pod.Counts vastNodes → pod.NonNegative) ∧
    ∃ snapshot other, Snapshot.build vastNodes crowd = .ok snapshot ∧
      Snapshot.build vastNodes crowd.reverse = .ok other ∧ snapshot.Reorders other ∧
        other.running ≠ snapshot.running ∧ ∃ report,
          simulate snapshot (.ofSnapshot snapshot) [smallCache] = .ok report ∧
            simulate other (.ofSnapshot other) [smallCache] = .ok report ∧
              report.assignments.map (·.node) = ["c"] := by
  have same : crowd.Perm crowd.reverse := (List.reverse_perm crowd).symm
  have positive : ∀ pod ∈ crowd, pod.Counts vastNodes → pod.NonNegative := by decide
  obtain ⟨-, agree⟩ := simulate_eq_of_listing_perm same positive
  obtain ⟨snapshot, built⟩ : ∃ snapshot, Snapshot.build vastNodes crowd = .ok snapshot :=
    ⟨_, by rfl⟩
  obtain ⟨other, rebuilt⟩ : ∃ other, Snapshot.build vastNodes crowd.reverse = .ok other :=
    ⟨_, by rfl⟩
  obtain ⟨reorders, answers⟩ := agree snapshot other built rebuilt
  refine ⟨same, positive, snapshot, other, built, rebuilt, reorders, ?_, ?_⟩
  · cases built
    cases rebuilt
    decide
  · rw [answers]
    cases built
    exact ⟨_, by rfl, by rfl, by rfl⟩

end Sample

end Headroom
