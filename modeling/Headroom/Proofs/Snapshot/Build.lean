import Headroom.Snapshot
import Headroom.Proofs.Manifest.Conversion
/-!
# Snapshots count what they should

Taking in the listed pods one by one comes to the same as converting the pods that count and binding
the results in order (`build_eq`). So it is known when there is a snapshot, which failure there is
otherwise, and which node is charged for which pods (`build_counts_relevant_pods`). A pod that does
not count has no effect at all, however malformed it is.
-/

namespace Headroom

variable {nodes : List Manifest.Node} {pods : List Manifest.Pod} {pod : Manifest.Pod}
  {snapshot : Snapshot} {records : List Node} {node blank : Node} {name : String}
  {workload : Workload} {workloads : List Workload} {entries : List (String × Workload)}
  {position : Nat}

/-! ## The books of a node -/

namespace Node

/-- The node with some running workloads more, one after the other. -/
def bindAll (node : Node) (workloads : List Workload) : Node := workloads.foldl bind node

theorem bindAll_eq (node : Node) (workloads : List Workload) :
    node.bindAll workloads =
      { node with
        allocated := workloads.foldl (fun total workload => total.add workload.requests)
          node.allocated
        runningPods := node.runningPods + workloads.length } := by
  induction workloads generalizing node with
  | nil => rfl
  | cons workload rest ih =>
      show (node.bind workload).bindAll rest = _
      rw [ih, List.length_cons, Nat.add_comm rest.length 1, ← Nat.add_assoc]
      rfl

end Node

theorem ResourceList.amount_foldl_add (list : ResourceList) (workloads : List Workload)
    (resource : ResourceName) :
    ResourceList.amount (workloads.foldl (fun total workload => total.add workload.requests) list)
        resource =
      workloads.foldl (fun total workload => total.add (workload.requests.amount resource))
        (list.amount resource) := by
  induction workloads generalizing list with
  | nil => rfl
  | cons workload rest ih => rw [List.foldl_cons, ih, amount_add, List.foldl_cons]

/-- What becomes of a node that was blank when it is charged for some running workloads. -/
structure Node.Tallied (blank : Node) (workloads : List Workload) (record : Node) : Prop where
  podCount_eq : record.podCount = workloads.length
  allocated_eq :
    record.allocated = workloads.foldl (fun total workload => total.add workload.requests) ∅
  /-- The sum of each resource stops at the bounds of an amount after each workload. -/
  amount_eq : ∀ resource, record.allocated.amount resource =
    workloads.foldl (fun total workload => total.add (workload.requests.amount resource)) .zero
  /-- All else is as the manifest has it. -/
  kept : { record with
    allocated := blank.allocated
    runningPods := blank.runningPods } = blank

theorem Node.tallied_bindAll (unallocated : blank.allocated = ∅) (empty : blank.podCount = 0)
    (workloads : List Workload) : blank.Tallied workloads (blank.bindAll workloads) := by
  -- pods that run and pods that were placed share one count
  have idle : blank.runningPods = 0 ∧ blank.placed.length = 0 := by
    unfold podCount at empty
    omega
  rw [bindAll_eq, unallocated]
  refine ⟨?_, rfl, fun resource => ?_, ?_⟩
  · show blank.runningPods + workloads.length + blank.placed.length = workloads.length
    omega
  · exact ResourceList.amount_foldl_add ∅ workloads resource
  · rw [← unallocated]

/-! ## Binding running workloads -/

namespace Snapshot

/-- The names of the nodes in listing order. -/
def names (snapshot : Snapshot) : List String := snapshot.nodes.map (·.name)

/-- Lets some workloads run, each on the first node of a name. -/
def bindAll (snapshot : Snapshot) (entries : List (String × Workload)) : Snapshot :=
  entries.foldl (fun snapshot entry => snapshot.bind entry.1 entry.2) snapshot

theorem position?_eq (snapshot : Snapshot) (name : String) :
    snapshot.position? name = snapshot.names.findIdx? (· = name) := by
  rw [names, List.findIdx?_map]
  rfl

theorem position?_eq_of_names_eq {other : Snapshot} (same : other.names = snapshot.names)
    (name : String) : other.position? name = snapshot.position? name := by
  rw [position?_eq, same, ← position?_eq]

theorem isNone_position?_iff : (snapshot.position? name).isNone = true ↔ name ∉ snapshot.names := by
  rw [position?_eq, Option.isNone_iff_eq_none, List.findIdx?_eq_none_iff]
  constructor
  · intro absent member
    simpa using absent name member
  · intro absent other member
    simp only [decide_eq_false_iff_not]
    exact fun same => absent (same ▸ member)

theorem isNone_node?_iff : (snapshot.node? name).isNone = true ↔ name ∉ snapshot.names := by
  simp [node?, names]

theorem nodes_bind (snapshot : Snapshot) (name : String) (workload : Workload) (position : Nat) :
    (snapshot.bind name workload).nodes[position]? = (snapshot.nodes[position]?).map fun node =>
      if snapshot.position? name = some position then node.bind workload else node := by
  unfold bind
  cases place : snapshot.position? name with
  | none => simp
  | some spot =>
      show (snapshot.nodes.modify spot _)[position]? = _
      rw [List.getElem?_modify]
      by_cases here : spot = position
      · simp [here]
      · simp [here]

theorem names_bind (snapshot : Snapshot) (name : String) (workload : Workload) :
    (snapshot.bind name workload).names = snapshot.names := by
  refine List.ext_getElem? fun position => ?_
  rw [names, names, List.getElem?_map, List.getElem?_map, nodes_bind, Option.map_map]
  congr 1
  funext node
  show Node.name (if _ then _ else _) = node.name
  split <;> rfl

/-- A node is charged for the workloads under its name if it is the first of that name. -/
theorem nodes_bindAll (snapshot : Snapshot) (entries : List (String × Workload)) (position : Nat) :
    (snapshot.bindAll entries).nodes[position]? = (snapshot.nodes[position]?).map fun node =>
      node.bindAll ((entries.filter fun entry =>
        snapshot.position? entry.1 = some position).map (·.2)) := by
  induction entries generalizing snapshot with
  | nil => simp [bindAll, Node.bindAll]
  | cons entry rest ih =>
      -- binding changes no name, so the rest finds the same positions as before
      have same_places := position?_eq_of_names_eq (names_bind snapshot entry.1 entry.2)
      show ((snapshot.bind entry.1 entry.2).bindAll rest).nodes[position]? = _
      rw [ih, nodes_bind, Option.map_map]
      simp only [same_places]
      congr 1
      funext node
      by_cases here : snapshot.position? entry.1 = some position
      · simp [here, Node.bindAll]
      · simp [here]

theorem running_bindAll (listed : ∀ entry ∈ entries, entry.1 ∈ snapshot.names) :
    (snapshot.bindAll entries).running = snapshot.running ++ entries := by
  induction entries generalizing snapshot with
  | nil => simp [bindAll]
  | cons entry rest ih =>
      have later : ∀ other ∈ rest, other.1 ∈ (snapshot.bind entry.1 entry.2).names := by
        intro other member
        rw [names_bind]
        exact listed other (List.mem_cons_of_mem _ member)
      have bound : (snapshot.bind entry.1 entry.2).running = snapshot.running ++ [entry] := by
        unfold bind
        cases place : snapshot.position? entry.1 with
        | none =>
            have absent := isNone_position?_iff.mp (by rw [place]; rfl)
            exact absurd (listed entry List.mem_cons_self) absent
        | some spot => rfl
      show ((snapshot.bind entry.1 entry.2).bindAll rest).running = _
      rw [ih later, bound, List.append_assoc]
      rfl

/-! ## Taking in pods -/

/-- The nodes of a snapshot bear the names in some manifests. -/
def Lists (snapshot : Snapshot) (nodes : List Manifest.Node) : Prop :=
  ∀ name, name ∈ snapshot.names ↔ ∃ node ∈ nodes, node.name = some name

theorem Lists.bind (lists : snapshot.Lists nodes) (name : String) (workload : Workload) :
    (snapshot.bind name workload).Lists nodes := by
  intro other
  rw [names_bind]
  exact lists other

theorem lists_ofNodes (converted : nodes.mapM Node.ofManifest = .ok records) :
    (ofNodes records).Lists nodes := by
  rw [mapM_eq_ok_iff] at converted
  intro name
  show name ∈ records.map (·.name) ↔ _
  induction converted with
  | nil => simp
  | @cons manifest record others rest first _ ih =>
      have named := (Node.ofManifest_eq_ok first).1
      rw [List.map_cons, List.mem_cons, ih, List.exists_mem_cons_iff, named, Option.some.injEq,
        eq_comm]

theorem addPod_eq (lists : snapshot.Lists nodes) (pod : Manifest.Pod) :
    snapshot.addPod pod =
      if pod.Counts nodes then pod.entry.map fun entry => snapshot.bind entry.1 entry.2
      else .ok snapshot :=
  Manifest.Pod.takeIn_eq (fun name => isNone_position?_iff.trans (not_congr (lists name))) pod
    snapshot.bind snapshot

/-- A snapshot is made by converting the nodes, then the pods that count, and binding what these
run, in order. -/
theorem build_eq (nodes : List Manifest.Node) (pods : List Manifest.Pod) :
    build nodes pods = do
      let records ← nodes.mapM Node.ofManifest
      let entries ← (pods.filter (·.Counts nodes)).mapM Manifest.Pod.entry
      return (ofNodes records).bindAll entries := by
  unfold build
  cases converted : nodes.mapM Node.ofManifest with
  | error error => rfl
  | ok records =>
      rw [ok_bind, ok_bind]
      have loop := foldlM_eq_map_mapM (fun snapshot entry lists => lists.bind entry.1 entry.2)
        (fun snapshot pod lists => addPod_eq lists pod) pods (lists_ofNodes converted)
      rw [loop]
      cases (pods.filter (·.Counts nodes)).mapM Manifest.Pod.entry <;> rfl

theorem build_eq_ok_iff :
    build nodes pods = .ok snapshot ↔ ∃ records entries,
      nodes.mapM Node.ofManifest = .ok records ∧
        (pods.filter (·.Counts nodes)).mapM Manifest.Pod.entry = .ok entries ∧
          snapshot = (ofNodes records).bindAll entries := by
  rw [build_eq]
  simp only [bind_eq_ok_iff, pure, Except.pure, Except.ok.injEq]
  constructor
  · rintro ⟨records, converted, entries, taken, same⟩
    exact ⟨records, entries, converted, taken, same.symm⟩
  · rintro ⟨records, entries, converted, taken, same⟩
    exact ⟨records, converted, entries, taken, same.symm⟩

theorem exists_build_eq_ok_iff :
    (∃ snapshot, build nodes pods = .ok snapshot) ↔ (∀ node ∈ nodes, node.Converts) ∧
      ∀ pod ∈ pods, pod.Counts nodes → ∃ workload, pod.toWorkload = .ok workload := by
  have every_node : (∃ records, nodes.mapM Node.ofManifest = .ok records) ↔
      ∀ node ∈ nodes, node.Converts := by
    rw [exists_mapM_eq_ok_iff]
    simp only [Node.exists_ofManifest_eq_ok_iff]
  have every_pod : (∃ entries,
      (pods.filter (·.Counts nodes)).mapM Manifest.Pod.entry = .ok entries) ↔
        ∀ pod ∈ pods, pod.Counts nodes → ∃ workload, pod.toWorkload = .ok workload := by
    rw [exists_mapM_eq_ok_iff]
    simp only [List.mem_filter, decide_eq_true_eq, and_imp, Manifest.Pod.exists_entry_eq_ok_iff]
  rw [← every_node, ← every_pod]
  constructor
  · rintro ⟨snapshot, built⟩
    obtain ⟨records, entries, converted, taken, -⟩ := build_eq_ok_iff.mp built
    exact ⟨⟨records, converted⟩, entries, taken⟩
  · rintro ⟨⟨records, converted⟩, entries, taken⟩
    exact ⟨_, build_eq_ok_iff.mpr ⟨records, entries, converted, taken, rfl⟩⟩

theorem build_eq_error_iff {error : RetrievalError} :
    build nodes pods = .error error ↔ FirstFailure Node.ofManifest nodes error ∨
      (∀ node ∈ nodes, node.Converts) ∧
        FirstFailure Manifest.Pod.toWorkload (pods.filter (·.Counts nodes)) error := by
  have pods_fail : ∀ counting : List Manifest.Pod,
      FirstFailure Manifest.Pod.entry counting error ↔
        FirstFailure Manifest.Pod.toWorkload counting error := by
    intro counting
    simp only [FirstFailure, Manifest.Pod.exists_entry_eq_ok_iff, Manifest.Pod.entry_eq_error_iff]
  -- the nodes are converted before any pod is looked at
  rw [build_eq, ← pods_fail, ← mapM_eq_error_iff, ← mapM_eq_error_iff]
  simp only [← Node.exists_ofManifest_eq_ok_iff]
  rw [← exists_mapM_eq_ok_iff]
  cases nodes.mapM Node.ofManifest with
  | error found => simp [error_bind]
  | ok records =>
      rw [ok_bind]
      cases (pods.filter (·.Counts nodes)).mapM Manifest.Pod.entry with
      | error found => simp
      | ok entries => simp [ok_bind, pure, Except.pure]

/-- Once the nodes convert, only a pod can fail. -/
theorem build_eq_error_iff_of_converts (converts : ∀ node ∈ nodes, node.Converts)
    {error : RetrievalError} :
    build nodes pods = .error error ↔
      FirstFailure Manifest.Pod.toWorkload (pods.filter (·.Counts nodes)) error := by
  rw [build_eq_error_iff, ← mapM_eq_error_iff]
  constructor
  · rintro (failed | ⟨-, cause⟩)
    · obtain ⟨records, converted⟩ := exists_mapM_eq_ok_iff.mpr fun node member =>
        Node.exists_ofManifest_eq_ok_iff.mpr (converts node member)
      rw [converted] at failed
      contradiction
    · exact cause
  · exact fun cause => .inr ⟨converts, cause⟩

/-- The running workloads that a node is charged for, if it stands at a position. -/
def runningAt (snapshot : Snapshot) (position : Nat) : List Workload :=
  (snapshot.running.filter fun entry => snapshot.position? entry.1 = some position).map (·.2)

/-- What a snapshot holds when it is built from some nodes and pods. -/
structure Tallies (snapshot : Snapshot) (nodes : List Manifest.Node) (pods : List Manifest.Pod) :
    Prop where
  /-- The running list is made of the pods that count, in listing order. -/
  running : List.Forall₂ Manifest.Pod.RunsAs (pods.filter (·.Counts nodes)) snapshot.running
  /-- There is one record for each node, in listing order. -/
  length_eq : snapshot.nodes.length = nodes.length
  /-- Each record is charged for what runs on it, and for nothing else. -/
  tallied : ∀ (position : Nat) (manifest : Manifest.Node), nodes[position]? = some manifest →
    ∃ blank record, Node.ofManifest manifest = .ok blank ∧
      snapshot.nodes[position]? = some record ∧ manifest.name = some record.name ∧
        record.cordoned = manifest.cordoned ∧ blank.Tallied (snapshot.runningAt position) record
  /-- Each running workload is charged to the first node of the name under which it runs. -/
  charged : ∀ entry ∈ snapshot.running, ∃ (position : Nat) (record : Node),
    snapshot.position? entry.1 = some position ∧ snapshot.nodes[position]? = some record ∧
      record.name = entry.1 ∧ ∀ earlier < position, ∀ other : Node,
        snapshot.nodes[earlier]? = some other → other.name ≠ entry.1

theorem exists_position_of_mem_names (member : name ∈ snapshot.names) :
    ∃ (position : Nat) (record : Node), snapshot.position? name = some position ∧
      snapshot.nodes[position]? = some record ∧ record.name = name ∧
        ∀ earlier < position, ∀ other : Node, snapshot.nodes[earlier]? = some other →
          other.name ≠ name := by
  cases place : snapshot.position? name with
  | none => exact absurd member (isNone_position?_iff.mp (by rw [place]; rfl))
  | some position =>
      obtain ⟨bound, named, before⟩ := List.findIdx?_eq_some_iff_getElem.mp place
      refine ⟨position, snapshot.nodes[position], rfl, List.getElem?_eq_getElem bound,
        of_decide_eq_true named, fun earlier less other found => ?_⟩
      obtain ⟨within, rfl⟩ := List.getElem?_eq_some_iff.mp found
      simpa using before earlier less

theorem names_bindAll (snapshot : Snapshot) (entries : List (String × Workload)) :
    (snapshot.bindAll entries).names = snapshot.names := by
  induction entries generalizing snapshot with
  | nil => rfl
  | cons entry rest ih =>
      show ((snapshot.bind entry.1 entry.2).bindAll rest).names = _
      rw [ih, names_bind]

theorem listed_of_mapM_entry (converted : nodes.mapM Node.ofManifest = .ok records)
    (taken : (pods.filter (·.Counts nodes)).mapM Manifest.Pod.entry = .ok entries) :
    ∀ entry ∈ entries, entry.1 ∈ (ofNodes records).names := by
  intro entry member
  obtain ⟨pod, counted, gives⟩ := exists_mem_of_mem_mapM taken member
  have counts : pod.Counts nodes := by simpa using List.of_mem_filter counted
  exact (lists_ofNodes converted entry.1).mpr (counts.runsAs gives).2

theorem running_of_mapM_entry (converted : nodes.mapM Node.ofManifest = .ok records)
    (taken : (pods.filter (·.Counts nodes)).mapM Manifest.Pod.entry = .ok entries) :
    ((ofNodes records).bindAll entries).running = entries :=
  running_bindAll (listed_of_mapM_entry converted taken)

theorem tallies_of_build (built : build nodes pods = .ok snapshot) :
    snapshot.Tallies nodes pods := by
  obtain ⟨records, entries, converted, taken, rfl⟩ := build_eq_ok_iff.mp built
  have runs := running_of_mapM_entry converted taken
  have same_names := names_bindAll (ofNodes records) entries
  refine ⟨?_, ?_, ?_, ?_⟩
  · rw [runs]
    have each := mapM_eq_ok_iff.mp taken
    have counting : ∀ pod ∈ pods.filter (·.Counts nodes), pod.Counts nodes := by
      intro pod member
      simpa using List.of_mem_filter member
    refine List.Forall₂.imp ?_ ((List.forall₂_and_left _ _).mpr ⟨counting, each⟩)
    rintro pod entry ⟨counts, gives⟩
    exact (counts.runsAs gives).1
  · rw [← List.length_map Node.name, ← names, same_names, names, List.length_map]
    exact (mapM_eq_ok_iff.mp converted).length_eq.symm
  · intro position manifest here
    obtain ⟨blank, found, gives⟩ := getElem?_of_mapM_eq_ok converted here
    obtain ⟨named, cordoned, unallocated, empty⟩ := Node.ofManifest_eq_ok gives
    have same_places := position?_eq_of_names_eq same_names
    have tallied := Node.tallied_bindAll unallocated empty
      (((ofNodes records).bindAll entries).runningAt position)
    refine ⟨blank, _, gives, ?_, ?_, ?_, tallied⟩
    · rw [nodes_bindAll, show (ofNodes records).nodes[position]? = some blank from found,
        Option.map_some, runningAt, runs]
      simp only [same_places]
    · rw [named, Node.bindAll_eq]
    · rw [Node.bindAll_eq, ← cordoned]
  · intro entry member
    rw [runs] at member
    have listed := listed_of_mapM_entry converted taken entry member
    exact exists_position_of_mem_names (same_names ▸ listed)

end Snapshot

/-- A snapshot is made of the nodes and the pods that count, and of nothing else. There is one
exactly when all of these convert; otherwise the first that does not, nodes before pods, is the
failure. Each pod that counts is charged to the first node of its name, and to no other. Pods that
do not count may come and go, whatever they look like. -/
theorem build_counts_relevant_pods (nodes : List Manifest.Node) (pods : List Manifest.Pod) :
    ((∃ snapshot, Snapshot.build nodes pods = .ok snapshot) ↔
      (∀ node ∈ nodes, node.Converts) ∧
        ∀ pod ∈ pods, pod.Counts nodes → ∃ workload, pod.toWorkload = .ok workload) ∧
    (∀ failure, (Snapshot.build nodes pods).mapError Failure.retrieval = .error failure ↔
      ∃ error, failure = .retrieval error ∧
        (FirstFailure Node.ofManifest nodes error ∨
          (∀ node ∈ nodes, node.Converts) ∧
            FirstFailure Manifest.Pod.toWorkload (pods.filter (·.Counts nodes)) error)) ∧
    (∀ snapshot, Snapshot.build nodes pods = .ok snapshot → snapshot.Tallies nodes pods) ∧
    ∀ others : List Manifest.Pod,
      others.filter (·.Counts nodes) = pods.filter (·.Counts nodes) →
        Snapshot.build nodes others = Snapshot.build nodes pods := by
  refine ⟨Snapshot.exists_build_eq_ok_iff, ?_, fun snapshot => Snapshot.tallies_of_build, ?_⟩
  · intro failure
    simp only [mapError_eq_error_iff, Snapshot.build_eq_error_iff]
    constructor
    · rintro ⟨error, cause, same⟩
      exact ⟨error, same.symm, cause⟩
    · rintro ⟨error, same, cause⟩
      exact ⟨error, cause, same.symm⟩
  · intro others same
    rw [Snapshot.build_eq, Snapshot.build_eq, same]

namespace Sample

/-- A pod that asks one node for some processor time. -/
def askingPod (phase : Option String) (node cpu : String) : Manifest.Pod :=
  { phase, spec := some { node := some node, containers := [Dict.insert ∅ "cpu" cpu] } }

def sharedName : List Manifest.Node :=
  [{ name := some "twin" }, { name := some "twin" }, { name := some "shut", cordoned := true }]

def counting : List Manifest.Pod :=
  [askingPod (some "Running") "twin" "500m", askingPod none "twin" "2"]

/-- Between the pods that count stand others, whose requests cannot be read. -/
def mixed : List Manifest.Pod :=
  [askingPod (some "Succeeded") "twin" "much", askingPod (some "Running") "twin" "500m",
    askingPod none "gone" "much", askingPod none "" "much", askingPod none "twin" "2",
    askingPod (some "Failed") "shut" "much"]

theorem build_counts_relevant_pods_mixed :
    mixed.filter (·.Counts sharedName) = counting.filter (·.Counts sharedName) ∧
      ∃ snapshot, Snapshot.build sharedName counting = .ok snapshot ∧
        Snapshot.build sharedName mixed = .ok snapshot ∧
          snapshot.Tallies sharedName counting ∧ snapshot.nodes.map (·.podCount) = [2, 0, 0] := by
  obtain ⟨-, -, tallies, others⟩ := build_counts_relevant_pods sharedName counting
  have same : mixed.filter (·.Counts sharedName) = counting.filter (·.Counts sharedName) := by rfl
  refine ⟨same, _, by rfl, ?_, tallies _ (by rfl), by rfl⟩
  rw [others mixed same]
  rfl

end Sample

end Headroom
