import Headroom.Proofs.Placement.Interchange
/-!
# A run is a plan carried out first-fit

What a run leaves and reports is said here without running anything: there is a plan for the first
workloads of the batch, each step of it takes the first node in listing order that the chain accepts
in the state that the steps before it lead to, and the plan ends with the batch or before a workload
that every node is closed to (`FirstFitRun`). A run succeeds with a report exactly if there is such
a plan for it (`run_eq_ok_iff_firstFitRun`).
-/

namespace Headroom

/-- A chain gets ready for a workload in a state, and accepts a node there. -/
def Chain.Accepts (chain : Chain) (view : ClusterView) (workload : Workload) (node : Node) :
    Prop :=
  ∃ prepared, chain.prepare view workload = .ok prepared ∧
    prepared.judge view workload node = .ok ()

/-- A chain gets ready for a workload in a state, and turns a node down there. -/
def Chain.Rejects (chain : Chain) (view : ClusterView) (workload : Workload) (node : Node) :
    Prop :=
  ∃ prepared, chain.prepare view workload = .ok prepared ∧ prepared.TurnsDown view workload node

/-- The first node in listing order that a chain accepts in a state, with its place. All nodes
before it are turned down. -/
def Chain.Picks (chain : Chain) (view : ClusterView) (workload : Workload) (position : Nat)
    (node : Node) : Prop :=
  ∃ before after, view.nodes = before ++ node :: after ∧ position = before.length ∧
    chain.Accepts view workload node ∧ ∀ other ∈ before, chain.Rejects view workload other

/-- A plan each step of which takes the first node that the chain accepts in the state that the
steps before it lead to, and the assignments it comes to. -/
structure FirstFitPlan (chain : Chain) (view : ClusterView) (plan : List Allotment)
    (assignments : List Assignment) : Prop where
  length_eq : assignments.length = plan.length
  steps : ∀ (turn : Nat) (allotment : Allotment), plan[turn]? = some allotment →
    ∃ node, chain.Picks (view.allotAll (plan.take turn)) allotment.workload allotment.position
        node ∧
      assignments[turn]? =
        some { index := turn, workload := allotment.workload.name, node := node.name }

/-- A plan for the first workloads of a batch, the state that it leads to, and the report on the
batch. -/
structure FirstFitRun (chain : Chain) (view : ClusterView) (batch : List Workload)
    (plan : List Allotment) (after : ClusterView) (report : Report) : Prop where
  planned : plan.map (·.workload) <+: batch
  firstFit : FirstFitPlan chain view plan report.assignments
  after_eq : after = view.allotAll plan
  complete : plan.length = batch.length →
    report.verdict = .feasible ∧ report.firstUnplaced = none
  /-- The first workload that is not planned fits nowhere. -/
  stuck : ∀ workload, batch[plan.length]? = some workload →
    report.verdict = .infeasible batch.length plan.length ∧
      report.firstUnplaced = some plan.length ∧
      (∃ prepared, chain.prepare after workload = .ok prepared) ∧
      ∀ node ∈ after.nodes, chain.Rejects after workload node

variable {chain : Chain} {view : ClusterView} {workload : Workload} {position : Nat}
  {node : Node} {prepared : Prepared} {before : List Node} {session : Session}
  {plan : List Allotment} {allotment : Allotment} {assignments : List Assignment}
  {placed batch : List Workload} {snapshot : Snapshot} {index : TopologyIndex}

/-! ## The search for a node -/

namespace Session

/-- Nodes that are turned down are passed over. -/
theorem search_append (turnedDown : ∀ other ∈ before, prepared.TurnsDown view workload other)
    (offset : Nat) (rest : List Node) :
    search prepared view workload offset (before ++ rest) =
      search prepared view workload (offset + before.length) rest := by
  induction before generalizing offset with
  | nil => rfl
  | cons head others ih =>
      obtain ⟨⟨rejection, objects, harmless⟩, later⟩ := List.forall_mem_cons.mp turnedDown
      rw [List.cons_append, search, objects]
      show (if rejection.status.isError = true then _ else _) = _
      rw [harmless, if_neg Bool.false_ne_true, ih later, List.length_cons]
      congr 1
      omega

end Session

namespace Chain

theorem exists_prepared_iff {P : Prepared → Prop}
    (ready : chain.prepare view workload = .ok prepared) :
    (∃ other, chain.prepare view workload = .ok other ∧ P other) ↔ P prepared := by
  constructor
  · intro ⟨other, again, holds⟩
    rw [ready, Except.ok.injEq] at again
    rw [again]
    exact holds
  · intro holds
    exact ⟨prepared, ready, holds⟩

theorem accepts_iff (ready : chain.prepare view workload = .ok prepared) :
    chain.Accepts view workload node ↔ prepared.judge view workload node = .ok () :=
  exists_prepared_iff ready

theorem rejects_iff (ready : chain.prepare view workload = .ok prepared) :
    chain.Rejects view workload node ↔ prepared.TurnsDown view workload node :=
  exists_prepared_iff ready

end Chain

namespace Session

/-- The search finds the node that the chain picks. -/
theorem locate_eq_some_iff : session.locate chain workload = .ok (some (position, node)) ↔
    chain.Picks session.view workload position node := by
  rw [locate, bind_eq_ok_iff]
  constructor
  · intro ⟨prepared, ready, found⟩
    obtain ⟨before, rest, split, turnedDown, ended⟩ := exists_append_of_search found
    rcases ended with ⟨_, nowhere⟩ | ⟨node, after, rfl, accepted, place⟩
    · contradiction
    · cases place
      exact ⟨before, after, split, Nat.zero_add _, (Chain.accepts_iff ready).mpr accepted,
        fun other member => (Chain.rejects_iff ready).mpr (turnedDown other member)⟩
  · intro ⟨before, after, split, place, ⟨prepared, ready, accepted⟩, rejected⟩
    refine ⟨prepared, ready, ?_⟩
    have turnedDown : ∀ other ∈ before, prepared.TurnsDown session.view workload other :=
      fun other member => (Chain.rejects_iff ready).mp (rejected other member)
    rw [show session.snapshot.nodes = before ++ node :: after from split,
      search_append turnedDown, search, accepted, Nat.zero_add, place]

/-- The search finds nothing exactly if every node is turned down. -/
theorem locate_eq_none_iff : session.locate chain workload = .ok none ↔
    (∃ prepared, chain.prepare session.view workload = .ok prepared) ∧
      ∀ other ∈ session.view.nodes, chain.Rejects session.view workload other := by
  rw [locate, bind_eq_ok_iff]
  constructor
  · intro ⟨prepared, ready, found⟩
    refine ⟨⟨prepared, ready⟩, ?_⟩
    obtain ⟨before, rest, split, turnedDown, ended⟩ := exists_append_of_search found
    rcases ended with ⟨rfl, _⟩ | ⟨node, after, _, _, place⟩
    · intro other member
      rw [show session.view.nodes = before ++ [] from split, List.append_nil] at member
      exact (Chain.rejects_iff ready).mpr (turnedDown other member)
    · contradiction
  · intro ⟨⟨prepared, ready⟩, rejected⟩
    refine ⟨prepared, ready, ?_⟩
    have turnedDown : ∀ other ∈ session.snapshot.nodes,
        prepared.TurnsDown session.view workload other :=
      fun other member => (Chain.rejects_iff ready).mp (rejected other member)
    have passed := search_append turnedDown 0 []
    rwa [List.append_nil] at passed

end Session

/-! ## One step of a plan -/

theorem Chain.Picks.getElem?_eq (picked : chain.Picks view workload position node) :
    view.nodes[position]? = some node := by
  obtain ⟨before, after, split, rfl, _⟩ := picked
  rw [split, List.getElem?_append_right (Nat.le_refl _), Nat.sub_self, List.getElem?_cons_zero]

theorem ClusterView.allotAll_concat (view : ClusterView) (plan : List Allotment)
    (allotment : Allotment) :
    view.allotAll (plan ++ [allotment]) = (view.allotAll plan).allot allotment :=
  List.foldl_append

namespace FirstFitPlan

theorem nil (chain : Chain) (view : ClusterView) : FirstFitPlan chain view [] [] where
  length_eq := rfl
  steps := by simp

/-- A plan goes on with the node that is picked in the state it leads to. -/
theorem concat (firstFit : FirstFitPlan chain view plan assignments)
    (picked : chain.Picks (view.allotAll plan) allotment.workload allotment.position node) :
    FirstFitPlan chain view (plan ++ [allotment]) (assignments ++
      [{ index := plan.length, workload := allotment.workload.name, node := node.name }]) where
  length_eq := by rw [List.length_append, List.length_append, firstFit.length_eq]; rfl
  steps := by
    intro turn other planned
    by_cases earlier : turn < plan.length
    · rw [List.getElem?_append_left earlier] at planned
      rw [List.take_append_of_le_length (Nat.le_of_lt earlier),
        List.getElem?_append_left (firstFit.length_eq ▸ earlier)]
      exact firstFit.steps turn other planned
    · have last : turn = plan.length := by
        have bound := (List.getElem?_eq_some_iff.mp planned).1
        rw [List.length_append, List.length_singleton] at bound
        omega
      rw [last, List.getElem?_concat_length, Option.some.injEq] at planned
      subst planned
      refine ⟨node, ?_, ?_⟩
      · rw [last, List.take_left' rfl]
        exact picked
      · rw [last, ← firstFit.length_eq, List.getElem?_concat_length]

/-- The last step of a plan comes after a plan of its own. -/
theorem exists_of_concat (firstFit : FirstFitPlan chain view (plan ++ [allotment]) assignments) :
    ∃ earlier node, FirstFitPlan chain view plan earlier ∧
      chain.Picks (view.allotAll plan) allotment.workload allotment.position node ∧
      assignments = earlier ++
        [{ index := plan.length, workload := allotment.workload.name, node := node.name }] := by
  have length_eq := firstFit.length_eq
  rw [List.length_append, List.length_singleton] at length_eq
  obtain ⟨earlier, last, rfl⟩ : ∃ earlier last, assignments = earlier ++ [last] :=
    (List.eq_nil_or_concat' assignments).resolve_left (List.ne_nil_of_length_eq_add_one length_eq)
  rw [List.length_append, List.length_singleton, Nat.add_right_cancel_iff] at length_eq
  obtain ⟨node, picked, recorded⟩ :=
    firstFit.steps plan.length allotment List.getElem?_concat_length
  rw [List.take_left' rfl] at picked
  rw [← length_eq, List.getElem?_concat_length, Option.some.injEq] at recorded
  refine ⟨earlier, node, ⟨length_eq, ?_⟩, picked, by rw [recorded, length_eq]⟩
  intro turn other planned
  have before := (List.getElem?_eq_some_iff.mp planned).1
  obtain ⟨host, first, made⟩ :=
    firstFit.steps turn other (by rwa [List.getElem?_append_left before])
  rw [List.take_append_of_le_length (Nat.le_of_lt before)] at first
  rw [List.getElem?_append_left (length_eq ▸ before)] at made
  exact ⟨host, first, made⟩

end FirstFitPlan

/-! ## Runs -/

namespace Session

/-- Every state on the way of a run is one that a first-fit plan leads to. -/
theorem Reaches.exists_firstFitPlan
    (reached : Reaches chain (Session.start snapshot index batch) placed session) :
    ∃ plan, plan.map (·.workload) = placed ∧
      session.view = (snapshot.view index).allotAll plan ∧
      FirstFitPlan chain (snapshot.view index) plan session.assignments := by
  induction reached with
  | start => exact ⟨[], rfl, rfl, .nil _ _⟩
  | @place placed session workload position node _ found ih =>
      obtain ⟨plan, workloads, view_eq, firstFit⟩ := ih
      have picked := locate_eq_some_iff.mp found
      let allotment : Allotment := { workload := workload, position := position }
      refine ⟨plan ++ [allotment], ?_, ?_, ?_⟩
      · rw [List.map_append, workloads]
        rfl
      · have stands : session.view.nodes[allotment.position]? = some node := picked.getElem?_eq
        rw [ClusterView.allotAll_concat, ← view_eq, ClusterView.allot_eq_place stands]
        rfl
      · have step : chain.Picks ((snapshot.view index).allotAll plan) allotment.workload
            allotment.position node := view_eq ▸ picked
        have turn_eq : placed.length = plan.length := by rw [← workloads, List.length_map]
        rw [turn_eq]
        exact firstFit.concat step

end Session

/-- A run follows each first-fit plan for the first workloads. -/
theorem FirstFitPlan.exists_reaches (batch : List Workload)
    (firstFit : FirstFitPlan chain (snapshot.view index) plan assignments) :
    ∃ session, Session.Reaches chain (Session.start snapshot index batch)
        (plan.map (·.workload)) session ∧
      session.view = (snapshot.view index).allotAll plan ∧
      session.assignments = assignments := by
  induction plan using List.reverseRecOn generalizing assignments with
  | nil => exact ⟨_, .start, rfl, (List.length_eq_zero_iff.mp firstFit.length_eq).symm⟩
  | append_singleton plan allotment ih =>
      obtain ⟨earlier, node, before, picked, rfl⟩ := firstFit.exists_of_concat
      obtain ⟨session, reached, view_eq, rfl⟩ := ih before
      rw [← view_eq] at picked
      refine ⟨session.place plan.length allotment.workload allotment.position node, ?_, ?_, rfl⟩
      · have next := reached.place (Session.locate_eq_some_iff.mpr picked)
        rw [List.length_map] at next
        rw [List.map_append]
        exact next
      · rw [ClusterView.allotAll_concat, ← view_eq, Session.view_place]
        exact (ClusterView.allot_eq_place picked.getElem?_eq).symm

theorem Session.report_eq_iff {report : Report} : session.report = report ↔
    session.verdict = report.verdict ∧ session.assignments = report.assignments ∧
      session.firstUnplaced = report.firstUnplaced := by
  cases report
  simp [Session.report]

/-- A run that has come to its end without a failure has carried out a first-fit plan. -/
theorem Session.Reaches.exists_firstFitRun {rest : List Workload} {last final : Session}
    (reached : Reaches chain (Session.start snapshot index batch) placed last)
    (ends : Ends chain placed.length last rest final (.ok ())) (split : batch = placed ++ rest) :
    ∃ plan, FirstFitRun chain (snapshot.view index) batch plan final.view final.report := by
  obtain ⟨plan, workloads, view_eq, firstFit⟩ := reached.exists_firstFitPlan
  have length_eq : plan.length = placed.length := by rw [← workloads, List.length_map]
  have unmarked : last.firstUnplaced = none := reached.firstUnplaced_eq
  refine ⟨plan, ⟨rest, by rw [workloads, split]⟩, ?_, ?_, ?_, ?_⟩
  · show FirstFitPlan chain _ plan final.assignments
    rw [ends.assignments_eq]
    exact firstFit
  · rw [← view_eq]
    rcases ends.eq_or_eq_giveUp with rfl | rfl <;> rfl
  · intro all
    cases ends with
    | complete => exact ⟨verdict_eq_feasible_iff.mpr unmarked, unmarked⟩
    | unplaceable =>
        rw [split, List.length_append, List.length_cons] at all
        omega
  · intro workload next
    cases ends with
    | complete =>
        rw [split, List.append_nil, length_eq, List.getElem?_length] at next
        contradiction
    | @unplaceable other others nowhere =>
        rw [split, length_eq, List.getElem?_append_right (Nat.le_refl _), Nat.sub_self,
          List.getElem?_cons_zero, Option.some.injEq] at next
        subst next
        have counted : last.assignments.length = plan.length := firstFit.length_eq
        refine ⟨?_, congrArg some length_eq.symm, locate_eq_none_iff.mp nowhere⟩
        show Verdict.infeasible last.batch.length last.assignments.length = _
        rw [counted, reached.batch_eq]
        rfl

/-- Where there is a first-fit plan, the run carries it out. -/
theorem FirstFitRun.exists_run_eq_ok {after : ClusterView} {report : Report}
    (run : FirstFitRun chain (snapshot.view index) batch plan after report) :
    ∃ final, (Session.start snapshot index batch).run chain = (final, .ok ()) ∧
      final.view = after ∧ final.report = report := by
  obtain ⟨rest, whole⟩ := run.planned
  obtain ⟨session, reached, view_eq, made⟩ := run.firstFit.exists_reaches batch
  have ran := reached.placeAll_append rest
  rw [whole, List.length_map] at ran
  rw [← run.after_eq] at view_eq
  cases rest with
  | nil =>
      have all : plan.length = batch.length := by rw [← whole, List.append_nil, List.length_map]
      obtain ⟨verdict, none⟩ := run.complete all
      have unmarked : session.firstUnplaced = .none := reached.firstUnplaced_eq
      refine ⟨session, ran, view_eq, Session.report_eq_iff.mpr ⟨?_, made, ?_⟩⟩
      · rw [verdict, Session.verdict_eq_feasible_iff, unmarked]
      · rw [none, unmarked]
  | cons workload others =>
      have next : batch[plan.length]? = some workload := by
        rw [← whole, ← List.length_map (·.workload), List.getElem?_append_right (Nat.le_refl _),
          Nat.sub_self, List.getElem?_cons_zero]
      obtain ⟨verdict, mark, closed⟩ := run.stuck workload next
      rw [← view_eq] at closed
      have nowhere := Session.locate_eq_none_iff.mpr closed
      have counted : session.assignments.length = plan.length := made ▸ run.firstFit.length_eq
      refine ⟨session.giveUp plan.length, ?_, view_eq,
        Session.report_eq_iff.mpr ⟨?_, made, mark.symm⟩⟩
      · rw [← (Session.Ends.unplaceable nowhere).placeAll_eq]
        exact ran
      · show Verdict.infeasible session.batch.length session.assignments.length = _
        rw [verdict, counted, reached.batch_eq]
        rfl

/-- **A run is first-fit, and its report is consistent.** Take any chain, snapshot, index and batch.
The run from the start succeeds, leaves a state and makes a report exactly if some plan for the
first workloads of the batch comes to them: the chain picks the node of each step in the state that
the steps before it lead to, the report has these assignments and no other, and it either says that
all of the batch was placed, or names the first workload that was not, which every node turns down
in the state that is left. -/
theorem run_eq_ok_iff_firstFitRun (chain : Chain) (snapshot : Snapshot) (index : TopologyIndex)
    (batch : List Workload) (after : ClusterView) (report : Report) :
    (∃ final, (Session.start snapshot index batch).run chain = (final, .ok ()) ∧
        final.view = after ∧ final.report = report) ↔
      ∃ plan, FirstFitRun chain (snapshot.view index) batch plan after report := by
  constructor
  · intro ⟨final, ran, view_eq, report_eq⟩
    obtain ⟨placed, rest, last, split, reached, ends, _⟩ :=
      Session.exists_reaches_run_start chain snapshot index batch
    rw [ran] at ends
    rw [← view_eq, ← report_eq]
    exact reached.exists_firstFitRun ends split
  · intro ⟨plan, run⟩
    exact run.exists_run_eq_ok

namespace Sample

/-- Two databases, of which only one fits into the free zone. -/
def contenders : Session :=
  Session.start { nodes := zones.nodes } zones.index [database "db-1", database "db-2"]

theorem run_eq_ok_iff_firstFitRun_contenders :
    (contenders.run .standard).2 = .ok () ∧ ∃ plan, plan.length = 1 ∧
      FirstFitRun .standard zones contenders.batch plan (contenders.run .standard).1.view
        (contenders.run .standard).1.report := by
  have succeeds : (contenders.run .standard).2 = .ok () := by rfl
  obtain ⟨plan, run⟩ := (run_eq_ok_iff_firstFitRun .standard { nodes := zones.nodes } zones.index
    contenders.batch _ _).mp ⟨_, Prod.ext rfl succeeds, rfl, rfl⟩
  exact ⟨succeeds, plan, run.firstFit.length_eq.symm.trans (by rfl), run⟩

end Sample

end Headroom
