import Headroom.Proofs.Placement.Growth
import Headroom.Proofs.Placement.Uniform
/-!
# A node more anywhere in the list

A node that stands in front of others may take a workload that went elsewhere before, so every later
workload may find another place. While no workload has terms on the workloads around it, what it can
use does not depend on where the others went, and the node that it leaves is there for a later one:
the free nodes of the run over fewer nodes stay a sublist of those of the run over more
(`Session.Covers`). So the run over more nodes places no fewer (`inserted_node_places_no_fewer`).
-/

namespace Headroom

variable {session larger : Session} {workload newcomer : Workload} {node other : Node}
  {view : ClusterView} {turn position : Nat} {batch : List Workload}

/-! ## Free nodes -/

/-- The nodes that have not been used, in listing order. -/
def Session.free (session : Session) : List Node :=
  session.snapshot.nodes.filter (!·.consumed)

namespace Session

theorem mem_free_iff : node ∈ session.free ↔ node ∈ session.view.nodes ∧ node.consumed = false := by
  rw [free, List.mem_filter, Bool.not_eq_true']
  rfl

/-- A placement takes the first free node that the chain accepts. -/
theorem FirstFit.free_place (fit : session.FirstFit StandardRule.all workload position node) :
    (session.place turn workload position node).free =
      session.free.eraseP (session.view.Accepts StandardRule.all workload ·) := by
  have unused := fit.accepts.consumed_eq_false (by decide)
  obtain ⟨before, after, split, rfl, accepted, passedOver⟩ := fit
  have moved : (session.place turn workload before.length node).snapshot.nodes =
      before ++ node.place workload :: after := by
    simp [split]
  have skipped : ∀ other ∈ before.filter (!·.consumed),
      ¬ decide (session.view.Accepts StandardRule.all workload other) = true := by
    intro other member
    simpa using passedOver other (List.mem_of_mem_filter member)
  rw [free, free, moved, split, List.filter_append, List.filter_append,
    List.filter_cons_of_neg (by simp), List.filter_cons_of_pos (by simp [unused]),
    List.eraseP_append_right _ skipped]
  congr 1
  exact (List.eraseP_cons_of_pos (by simpa using accepted)).symm

/-! ## Two runs side by side -/

/-- Where a session is, a session over more nodes has come as far, and has all the free nodes left
that this one has. -/
structure Covers (larger session : Session) : Prop where
  placed_eq : larger.assignments.length = session.assignments.length
  unplaced_eq : larger.firstUnplaced = session.firstUnplaced
  free_sublist : session.free.Sublist larger.free
  welcomes_iff : ∀ workload node, workload.affinityTerms = [] →
    (larger.view.Welcomes workload node ↔ session.view.Welcomes workload node)

theorem Covers.accepts_iff (covers : larger.Covers session)
    (termless : workload.affinityTerms = []) :
    larger.view.Accepts StandardRule.all workload node ↔
      session.view.Accepts StandardRule.all workload node := by
  rw [ClusterView.accepts_iff, ClusterView.accepts_iff]
  exact and_congr_right fun _ => imp_congr_right fun _ => covers.welcomes_iff _ _ termless

/-- Workloads without terms do not mind each other. -/
theorem welcomes_place_iff_of_termless (termless : workload.affinityTerms = [])
    (quiet : newcomer.affinityTerms = []) (stands : view.nodes[position]? = some node) :
    (view.place newcomer position node).Welcomes workload other ↔ view.Welcomes workload other := by
  have solitary : ∀ term ∈ workload.affinityTerms, term.kind ≠ .required := by simp [termless]
  have bears : workload.Bears other node newcomer := ⟨by simp [termless], by simp [quiet]⟩
  rw [ClusterView.welcomes_place_iff solitary stands, and_iff_left bears]

/-- Where one session finds a place the larger one finds a place too, and the node that it passes
by or leaves over is free afterwards. -/
theorem Covers.exists_locate (covers : larger.Covers session) (turn : Nat)
    (termless : workload.affinityTerms = [])
    (found : session.locate .standard workload = .ok (some (position, node))) :
    ∃ spot host, larger.locate .standard workload = .ok (some (spot, host)) ∧
      (larger.place turn workload spot host).Covers
        (session.place turn workload position node) := by
  have fit := firstFit_of_locate found
  obtain ⟨prepared, ready, -⟩ := bind_eq_ok_iff.mp found
  have formed := Chain.exists_prepare_eq_ok_iff.mp ⟨prepared, ready⟩
  -- the node that is taken here is free there as well, so some place is found there
  have free : node ∈ session.free := mem_free_iff.mpr
    ⟨List.mem_of_getElem? fit.getElem?_eq, fit.accepts.consumed_eq_false (by decide)⟩
  have offered : node ∈ larger.view.nodes := (mem_free_iff.mp (covers.free_sublist.subset free)).1
  obtain ⟨place, located⟩ : ∃ place, larger.locate .standard workload = .ok place :=
    exists_locate_eq_ok formed
  cases place with
  | none =>
      have accepted := (covers.accepts_iff termless).mpr fit.accepts
      exact absurd accepted (not_accepts_of_locate located node offered)
  | some target =>
      obtain ⟨spot, host⟩ := target
      have larger_fit := firstFit_of_locate located
      refine ⟨spot, host, located, ?_, covers.unplaced_eq, ?_, ?_⟩
      · show (larger.assignments ++ [_]).length = (session.assignments ++ [_]).length
        rw [List.length_append, List.length_append, covers.placed_eq]
        rfl
      · -- both take the first free node that suits, so a sublist is left of a sublist
        simp only [fit.free_place, larger_fit.free_place, covers.accepts_iff termless]
        exact covers.free_sublist.eraseP
      · intro later other quiet
        rw [view_place, view_place,
          welcomes_place_iff_of_termless quiet termless larger_fit.getElem?_eq,
          welcomes_place_iff_of_termless quiet termless fit.getElem?_eq]
        exact covers.welcomes_iff later other quiet

/-- The larger session places at least as many, and all if the other one does. -/
theorem Covers.placeAll (covers : larger.Covers session) (turn : Nat)
    (termless : ∀ workload ∈ batch, workload.affinityTerms = []) :
    (placeAll .standard turn batch session).1.assignments.length ≤
        (placeAll .standard turn batch larger).1.assignments.length ∧
      ((placeAll .standard turn batch session).2 = .ok () →
        (placeAll .standard turn batch session).1.firstUnplaced = none →
          (placeAll .standard turn batch larger).2 = .ok () ∧
            (placeAll .standard turn batch larger).1.firstUnplaced = none) := by
  -- by induction on the batch: `Covers` holds before each workload that both sessions place
  induction batch generalizing turn session larger with
  | nil => exact ⟨covers.placed_eq.ge, fun _ none_left => ⟨rfl, covers.unplaced_eq.trans none_left⟩⟩
  | cons workload rest ih =>
      have as_many : session.assignments.length ≤
          (Session.placeAll .standard turn (workload :: rest) larger).1.assignments.length := by
        rw [← covers.placed_eq]
        exact (assignments_prefix_placeAll .standard turn (workload :: rest) larger).length_le
      cases outcome : session.locate .standard workload with
      | error rejection =>
          have stopped : Session.placeAll .standard turn (workload :: rest) session =
              (session, .error (.admission workload.name rejection)) := by
            rw [Session.placeAll, outcome]
          rw [stopped]
          exact ⟨as_many, fun done _ => by contradiction⟩
      | ok place =>
          cases place with
          | none =>
              have stopped : Session.placeAll .standard turn (workload :: rest) session =
                  (session.giveUp turn, .ok ()) := by
                rw [Session.placeAll, outcome]
              rw [stopped]
              exact ⟨as_many, fun _ none_left => by contradiction⟩
          | some target =>
              obtain ⟨position, node⟩ := target
              obtain ⟨spot, host, located, still_covers⟩ :=
                covers.exists_locate turn (termless workload List.mem_cons_self) outcome
              have later := ih still_covers (turn + 1) fun other member =>
                termless other (List.mem_cons_of_mem _ member)
              simp only [Session.placeAll, outcome, located]
              exact later

theorem covers_start {index : TopologyIndex} {newcomer : Node} (vacant : newcomer.Vacant index)
    (snapshot : Snapshot) (position : Nat) (batch : List Workload) :
    (start (snapshot.insertNode position newcomer) index batch).Covers
      (start snapshot index batch) where
  placed_eq := rfl
  unplaced_eq := rfl
  free_sublist := by
    have longer : snapshot.nodes.Sublist (snapshot.insertNode position newcomer).nodes := by
      have skip := (List.sublist_cons_self newcomer (snapshot.nodes.drop position)).append_left
        (snapshot.nodes.take position)
      rwa [List.take_append_drop] at skip
    exact longer.filter _
  welcomes_iff := fun _ _ _ => (Snapshot.widens_insertNode vacant position).welcomes_iff

end Session

/-- **A node more never hurts workloads without terms.** Let a node that hosts nothing be put
anywhere into the list, and let no workload of a batch have terms on the workloads around it; those
that run may have any. The run of the standard chain then places at least as many as without the
node, wherever they go, and a batch that was feasible stays so. -/
theorem inserted_node_places_no_fewer {index : TopologyIndex} {newcomer : Node}
    (vacant : newcomer.Vacant index) (termless : ∀ workload ∈ batch, workload.affinityTerms = [])
    (snapshot : Snapshot) (position : Nat) :
    ((Session.start snapshot index batch).run .standard).1.assignments.length ≤
        ((Session.start (snapshot.insertNode position newcomer) index batch).run
          .standard).1.assignments.length ∧
      ∀ report, simulate snapshot index batch = .ok report → report.verdict = .feasible →
        ∃ again, simulate (snapshot.insertNode position newcomer) index batch = .ok again ∧
          again.verdict = .feasible := by
  obtain ⟨as_many, complete⟩ :=
    (Session.covers_start vacant snapshot position batch).placeAll 0 termless
  refine ⟨as_many, fun report simulated feasible => ?_⟩
  obtain ⟨done, rfl⟩ := simulateWith_eq_ok_iff.mp simulated
  obtain ⟨also_done, none_left⟩ := complete done (Session.verdict_eq_feasible_iff.mp feasible)
  exact ⟨_, simulateWith_eq_ok_iff.mpr ⟨also_done, rfl⟩,
    Session.verdict_eq_feasible_iff.mpr none_left⟩

namespace Sample

/-- A workload that runs, and wants no server near it. -/
def recluse : Workload := { name := "recluse", affinityTerms := [zoneTerm .forbidden "web"] }

/-- A workload that takes no more computing time than the small ones. -/
def server (name : String) (memory : Amount) : Workload :=
  { name
    labels := (Dict.empty : Labels).insert "app" "web"
    requests := .cpuMemory onePerZone.cpuMillis memory }

/-- A server that all free nodes have room for, then one that not all have room for. -/
def servers : List Workload :=
  [server "web-0" onePerZone.memoryBytes, server "web-1" { val := 256 }]

def threeZones : Snapshot :=
  { nodes := [roomy "a" "east", roomy "b" "west", roomy "c" none] }

def shared : TopologyIndex := ({} : TopologyIndex).insert "a" recluse

/-- Both servers move on by one when a node is put in front of those that they had. -/
theorem inserted_node_places_no_fewer_servers :
    (roomy "n" "north").Vacant shared ∧
      (∀ workload ∈ servers, workload.affinityTerms = []) ∧
      ((Session.start threeZones shared servers).run .standard).1.assignments.map (·.node) =
        ["b", "c"] ∧
      ((Session.start (threeZones.insertNode 1 (roomy "n" "north")) shared servers).run
        .standard).1.assignments.map (·.node) = ["n", "b"] ∧
      ∃ report, simulate (threeZones.insertNode 1 (roomy "n" "north")) shared servers = .ok report ∧
        report.verdict = .feasible := by
  have vacant : (roomy "n" "north").Vacant shared := ⟨rfl, rfl⟩
  have termless : ∀ workload ∈ servers, workload.affinityTerms = [] := by decide
  obtain ⟨-, feasible⟩ := inserted_node_places_no_fewer vacant termless threeZones 1
  exact ⟨vacant, termless, by rfl, by rfl, feasible _ rfl rfl⟩

end Sample

end Headroom
