import Mathlib.Logic.Relation
import Headroom.Proofs.Placement.Growth
import Headroom.Proofs.Placement.Slack
import Headroom.Proofs.Topology.Sync
/-!
# Changes for the better

A profile may ask for less, and a snapshot may offer more: each kind of change is one step of
`Profile.Relaxes` or `Snapshot.Relaxes`. A step of the first gives milder workloads, a step of the
second gives roomier nodes and nothing more that runs, or new nodes, or another order. That a
workload has gone is said with the books of its node alone. In a snapshot that was made by binding
it is the same as if the workload had never been bound (`Snapshot.relaxes_bindAll`).
-/

namespace Headroom

/-- A change after which a profile asks for less. -/
inductive Profile.Relaxes : Profile → Profile → Prop
  | lowerCpu {profile : Profile} {cpu : Amount} :
      0 ≤ cpu.val → cpu.val ≤ profile.cpuMillis.val →
      Relaxes profile { profile with cpuMillis := cpu }
  | lowerMemory {profile : Profile} {memory : Amount} :
      0 ≤ memory.val → memory.val ≤ profile.memoryBytes.val →
      Relaxes profile { profile with memoryBytes := memory }
  | tolerate {profile : Profile} {more : List Toleration} :
      (∀ toleration ∈ more, toleration.validate = .ok ()) →
      Relaxes profile { profile with tolerations := profile.tolerations ++ more }
  | unselect {profile : Profile} {fewer : Labels} :
      fewer.entries.Sublist profile.nodeSelector.entries →
      Relaxes profile { profile with nodeSelector := fewer }
  | gather {profile : Profile} : Relaxes profile { profile with spreadBy := none }

/-- A change after which a node offers more. Only an amount that is listed can be raised: where
pods are not limited, a limit would be a restriction. -/
inductive Node.Relaxes : Node → Node → Prop
  | raise {node : Node} {resource : ResourceName} {offered more : Amount} :
      node.allocatable.get? resource = some offered → offered.val ≤ more.val →
      Relaxes node { node with allocatable := node.allocatable.insert resource more }
  | uncordon {node : Node} : Relaxes node { node with cordoned := false }
  | untaint {node : Node} {fewer : List Taint} : fewer.Sublist node.taints →
      Relaxes node { node with taints := fewer }

/-- A change after which a snapshot offers more. -/
inductive Snapshot.Relaxes : Snapshot → Snapshot → Prop
  | node {snapshot : Snapshot} {position : Nat} {node better : Node} :
      snapshot.nodes[position]? = some node → node.Relaxes better →
      Relaxes snapshot { snapshot with nodes := snapshot.nodes.set position better }
  /-- A workload that runs on a node is gone, and so is its share in the books of the node. -/
  | release {snapshot : Snapshot} {position : Nat} {blank : Node} {early late : List Workload}
      {workload : Workload} {ahead behind : List (String × Workload)} :
      snapshot.nodes[position]? = some (blank.bindAll (early ++ workload :: late)) →
      snapshot.running = ahead ++ (blank.name, workload) :: behind →
      Relaxes snapshot
        { nodes := snapshot.nodes.set position (blank.bindAll (early ++ late))
          running := ahead ++ behind }
  | insert {snapshot : Snapshot} {newcomer : Node} (position : Nat) : newcomer.placed = [] →
      (∀ entry ∈ snapshot.running, entry.1 ≠ newcomer.name) →
      Relaxes snapshot (snapshot.insertNode position newcomer)
  | permute {snapshot : Snapshot} {nodes : List Node} : snapshot.nodes.Perm nodes →
      Relaxes snapshot { snapshot with nodes }

variable {profile easier : Profile} {snapshot larger : Snapshot} {node better : Node}
  {workload : Workload} {running fewer : List (String × Workload)} {name : String}

/-! ## What a profile asks for -/

namespace Profile

theorem wellFormed_iff :
    (profile.workload 0).WellFormed ↔
      (∀ key ∈ profile.spreadBy, (spreadTerm key).validate = .ok ()) ∧
        ∀ toleration ∈ profile.tolerations, toleration.validate = .ok () := by
  have terms : StandardRule.interWorkloadAffinity.check (profile.workload 0) = .ok () ↔
      ∀ key ∈ profile.spreadBy, (spreadTerm key).validate = .ok () := by
    rw [StandardRule.check, mapError_eq_ok_iff, forM_eq_ok_iff]
    simp [workload]
  have tolerations : StandardRule.taintToleration.check (profile.workload 0) = .ok () ↔
      ∀ toleration ∈ profile.tolerations, toleration.validate = .ok () := by
    rw [StandardRule.check, mapError_eq_ok_iff, forM_eq_ok_iff]
    rfl
  rw [← terms, ← tolerations]
  constructor
  · intro formed
    exact ⟨formed .interWorkloadAffinity, formed .taintToleration⟩
  · rintro ⟨affinity, tolerated⟩ rule
    cases rule with
    | interWorkloadAffinity => exact affinity
    | taintToleration => exact tolerated
    | _ => rfl

theorem get?_requests_workload_iff {index : Nat} {resource : ResourceName} {amount : Amount} :
    (profile.workload index).requests.get? resource = some amount ↔
      resource = .cpu ∧ profile.cpuMillis = amount ∨
        resource = .memory ∧ profile.memoryBytes = amount := by
  show (ResourceList.cpuMemory profile.cpuMillis profile.memoryBytes).get? resource = _ ↔ _
  rw [ResourceList.cpuMemory]
  by_cases memory : resource = .memory
  · rw [memory, Dict.get?_insert_self]
    simp [show ResourceName.memory ≠ .cpu by decide]
  · rw [Dict.get?_insert_of_ne _ memory]
    by_cases cpu : resource = .cpu
    · rw [cpu, Dict.get?_insert_self]
      simp [show ResourceName.cpu ≠ .memory by decide]
    · rw [Dict.get?_insert_of_ne _ cpu, Dict.get?_empty]
      simp [cpu, memory]

/-- Lower requests are milder, while a request that is left was one before. -/
theorem milder_of_lower {cpu memory : Amount}
    (cpu_lower : cpu.val ≠ 0 → profile.cpuMillis.val ≠ 0 ∧ cpu.val ≤ profile.cpuMillis.val)
    (memory_lower : memory.val ≠ 0 →
      profile.memoryBytes.val ≠ 0 ∧ memory.val ≤ profile.memoryBytes.val) (index : Nat) :
    (profile.workload index).Milder
      (({ profile with cpuMillis := cpu, memoryBytes := memory } : Profile).workload index) :=
  { Workload.Milder.refl (profile.workload index) with
    requests := by
      intro resource less listed asked
      rcases get?_requests_workload_iff.mp listed with ⟨rfl, rfl⟩ | ⟨rfl, rfl⟩
      · exact ⟨_, get?_requests_workload_iff.mpr (.inl ⟨rfl, rfl⟩), cpu_lower asked⟩
      · exact ⟨_, get?_requests_workload_iff.mpr (.inr ⟨rfl, rfl⟩), memory_lower asked⟩ }

theorem Relaxes.milder (relaxes : profile.Relaxes easier) (index : Nat) :
    (profile.workload index).Milder (easier.workload index) := by
  have same := Workload.Milder.refl (profile.workload index)
  cases relaxes with
  | lowerCpu floor lower =>
      refine milder_of_lower ?_ (fun asked => ⟨asked, Int.le_refl _⟩) index
      intro asked
      omega
  | lowerMemory floor lower =>
      refine milder_of_lower (fun asked => ⟨asked, Int.le_refl _⟩) ?_ index
      intro asked
      omega
  | @tolerate more _ =>
      refine { same with tolerates := ?_ }
      intro taint tolerated
      show (profile.tolerations ++ more).any (·.tolerates taint) = true
      rw [List.any_append, Bool.or_eq_true]
      exact .inl tolerated
  | unselect sub =>
      refine { same with nodeSelector := ?_ }
      intro key value wanted
      exact Dict.mem_entries_iff.mp (sub.subset (Dict.mem_entries_iff.mpr wanted))
  | gather =>
      refine { same with affinityTerms := ?_ }
      intro term declared
      contradiction

theorem Relaxes.wellFormed (relaxes : profile.Relaxes easier)
    (formed : (profile.workload 0).WellFormed) : (easier.workload 0).WellFormed := by
  obtain ⟨spread, tolerations⟩ := wellFormed_iff.mp formed
  refine wellFormed_iff.mpr ?_
  cases relaxes with
  | tolerate more =>
      refine ⟨spread, ?_⟩
      intro toleration member
      rcases List.mem_append.mp member with old | new
      · exact tolerations toleration old
      · exact more toleration new
  | gather => exact ⟨by simp, tolerations⟩
  | _ => exact ⟨spread, tolerations⟩

theorem Relaxes.spreadBy (relaxes : profile.Relaxes easier) :
    ∀ key ∈ easier.spreadBy, key ∈ profile.spreadBy := by
  intro key spread
  cases relaxes with
  | gather => contradiction
  | _ => exact spread

end Profile

/-! ## What a snapshot offers -/

theorem Node.Relaxes.roomier (relaxes : node.Relaxes better) : node.Roomier better := by
  cases relaxes with
  | @raise resource offered more listed raised =>
      refine Roomier.of_books (fun other => ?_) (fun _ => Int.le_refl _) (Nat.le_refl _)
      by_cases same : other = resource
      · rw [same, listed, Dict.get?_insert_self]
        exact .some raised
      · -- a resource that was not listed is not listed now: pods without a limit stay so
        rw [Dict.get?_insert_of_ne _ same]
        exact rel_le_refl _
  | uncordon =>
      refine { Roomier.refl node with cordoned := ?_ }
      intro cordoned
      contradiction
  | untaint sub => exact { Roomier.refl node with taints := sub.subset }

theorem TopologyIndex.mem_workloadsOn_ofSnapshot_iff :
    workload ∈ (ofSnapshot snapshot).workloadsOn name ↔ (name, workload) ∈ snapshot.running := by
  rw [workloadsOn_ofSnapshot]
  simp

/-- The second snapshot has roomier nodes, and nothing runs in it that did not run before. -/
structure Snapshot.Roomier (snapshot larger : Snapshot) : Prop where
  nodes : List.Forall₂ Node.Roomier snapshot.nodes larger.nodes
  running : larger.running ⊆ snapshot.running

theorem Snapshot.Roomier.calmer (roomier : snapshot.Roomier larger) :
    (snapshot.view (.ofSnapshot snapshot)).Calmer (larger.view (.ofSnapshot larger)) := by
  rintro host other ⟨listed, hosted⟩
  obtain ⟨position, within, rfl⟩ := List.getElem_of_mem listed
  have bound : position < snapshot.nodes.length := by
    rw [roomier.nodes.length_eq]
    exact within
  have room := roomier.nodes.get bound within
  refine ⟨snapshot.nodes[position], ⟨List.getElem_mem bound, ?_⟩, room.labels_eq⟩
  rcases hosted with runs | placed
  · have still := roomier.running (TopologyIndex.mem_workloadsOn_ofSnapshot_iff.mp runs)
    refine .inl (TopologyIndex.mem_workloadsOn_ofSnapshot_iff.mpr ?_)
    exact room.name_eq ▸ still
  · exact .inr (room.placed_eq ▸ placed)

/-- What runs after a change ran before. -/
theorem Snapshot.Relaxes.running_subset (relaxes : snapshot.Relaxes larger) :
    larger.running ⊆ snapshot.running := by
  cases relaxes with
  | @release _ blank _ _ workload ahead behind _ runs =>
      rw [runs]
      exact ((List.sublist_cons_self (blank.name, workload) behind).append_left ahead).subset
  | _ => exact fun _ member => member

/-! ## Workloads that have gone -/

namespace Snapshot

/-- What the node at a position is charged for when some workloads are bound. -/
def share (snapshot : Snapshot) (position : Nat) (entries : List (String × Workload)) :
    List Workload :=
  (entries.filter fun entry => snapshot.position? entry.1 = some position).map (·.2)

theorem share_append (snapshot : Snapshot) (position : Nat)
    (ahead behind : List (String × Workload)) :
    snapshot.share position (ahead ++ behind) =
      snapshot.share position ahead ++ snapshot.share position behind := by
  rw [share, List.filter_append, List.map_append]
  rfl

theorem share_cons (snapshot : Snapshot) (position : Nat) (entry : String × Workload)
    (behind : List (String × Workload)) :
    snapshot.share position (entry :: behind) =
      if snapshot.position? entry.1 = some position then
        entry.2 :: snapshot.share position behind
      else snapshot.share position behind := by
  by_cases here : snapshot.position? entry.1 = some position
  · rw [if_pos here, share, List.filter_cons_of_pos (by simpa using here)]
    rfl
  · rw [if_neg here, share, List.filter_cons_of_neg (by simpa using here)]
    rfl

/-- In a snapshot that has been made by binding, a workload has gone when it is left out. -/
theorem relaxes_bindAll {start : Snapshot} {ahead behind : List (String × Workload)}
    {entry : String × Workload}
    (listed : ∀ other ∈ ahead ++ entry :: behind, other.1 ∈ start.names) :
    (start.bindAll (ahead ++ entry :: behind)).Relaxes (start.bindAll (ahead ++ behind)) := by
  obtain ⟨position, blank, place, stands, named, -⟩ :=
    exists_position_of_mem_names (listed entry (by simp))
  have still_listed : ∀ other ∈ ahead ++ behind, other.1 ∈ start.names := by
    intro other member
    refine listed other ?_
    rw [List.mem_append] at member
    rw [List.mem_append, List.mem_cons]
    exact member.imp_right .inr
  have charged : (start.bindAll (ahead ++ entry :: behind)).nodes[position]? =
      some (blank.bindAll
        (start.share position ahead ++ entry.2 :: start.share position behind)) := by
    rw [nodes_bindAll, ← share, share_append, share_cons, if_pos place, stands]
    rfl
  have runs : (start.bindAll (ahead ++ entry :: behind)).running =
      (start.running ++ ahead) ++ (blank.name, entry.2) :: behind := by
    rw [running_bindAll listed, named, List.append_assoc]
  have nodes_eq : (start.bindAll (ahead ++ entry :: behind)).nodes.set position
        (blank.bindAll (start.share position ahead ++ start.share position behind)) =
      (start.bindAll (ahead ++ behind)).nodes := by
    refine List.ext_getElem? fun other => ?_
    by_cases here : position = other
    · subst here
      rw [List.getElem?_set_self (List.getElem?_eq_some_iff.mp charged).1, nodes_bindAll, ← share,
        share_append, stands]
      rfl
    · -- the entry is charged to one node, so the books of the others are the same without it
      have elsewhere : start.position? entry.1 ≠ some other := by
        rw [place]
        exact fun same => here (Option.some.inj same)
      rw [List.getElem?_set_ne here, nodes_bindAll, nodes_bindAll, ← share, ← share, share_append,
        share_append, share_cons, if_neg elsewhere]
  have running_eq : (start.running ++ ahead) ++ behind =
      (start.bindAll (ahead ++ behind)).running := by
    rw [running_bindAll still_listed, List.append_assoc]
  have change := Relaxes.release charged runs
  rw [nodes_eq, running_eq] at change
  exact change

/-- So any of the workloads can go, one after the other. -/
theorem relaxes_bindAll_of_sublist {start : Snapshot} (sub : fewer.Sublist running)
    (listed : ∀ entry ∈ running, entry.1 ∈ start.names) :
    Relation.ReflTransGen Relaxes (start.bindAll running) (start.bindAll fewer) := by
  -- by induction on what is left out; the workloads that stay are carried along in front
  have after : ∀ kept : List (String × Workload), (∀ entry ∈ kept, entry.1 ∈ start.names) →
      Relation.ReflTransGen Relaxes (start.bindAll (kept ++ running))
        (start.bindAll (kept ++ fewer)) := by
    induction sub with
    | slnil => exact fun _ _ => .refl
    | @cons fewer running entry _ ih =>
        intro kept kept_listed
        have all : ∀ other ∈ kept ++ entry :: running, other.1 ∈ start.names := by
          intro other member
          rcases List.mem_append.mp member with old | new
          · exact kept_listed other old
          · exact listed other new
        have others := ih (fun other member => listed other (List.mem_cons_of_mem _ member)) kept
          kept_listed
        exact .head (relaxes_bindAll all) others
    | @cons_cons fewer running entry _ ih =>
        intro kept kept_listed
        have others := ih (fun other member => listed other (List.mem_cons_of_mem _ member))
          (kept ++ [entry])
        rw [List.append_assoc, List.append_assoc] at others
        refine others fun other member => ?_
        rcases List.mem_append.mp member with old | new
        · exact kept_listed other old
        · rw [List.mem_singleton] at new
          exact listed other (new ▸ List.mem_cons_self)
  exact after [] (by simp)

end Snapshot

end Headroom
