import Headroom.Proofs.Admission.Imprint
import Headroom.Proofs.Placement.Order
import Headroom.Proofs.Placement.Refusal
/-!
# What a run asks of the index

A run comes to the same end with every index that has the same imprints under the names of its nodes
(`run_eq_of_imprints_eq`). Indexes with these imprints may still differ on whether anybody repels at
all, since that is asked of every name: then the rule between workloads takes part in one search and
is skipped in the other, but a rule that is skipped would not have objected.
-/

namespace Headroom

variable {snapshot : Snapshot} {left right index : TopologyIndex} {rules : List StandardRule}
  {batch : List Workload} {session : Session} {workload : Workload}

namespace Session

/-- The session with another index. -/
def withIndex (session : Session) (index : TopologyIndex) : Session := { session with index }

/-- Under the name of each node of the session, the index has the imprints that another one has. -/
def Matches (session : Session) (index : TopologyIndex) : Prop :=
  ∀ node ∈ session.snapshot.nodes, session.index.imprints node.name = index.imprints node.name

theorem Matches.resembles (alike : session.Matches index) :
    session.view.Resembles (session.withIndex index).view where
  nodes_eq := rfl
  imprints_eq := alike

/-- The search finds the same place with both indexes, or fails with the same objection. -/
theorem Matches.locate_eq (alike : session.Matches index) :
    (session.withIndex index).locate (rules.map .standard) workload =
      session.locate (rules.map .standard) workload := by
  cases found : session.locate (rules.map .standard) workload with
  | error rejection =>
      rw [locate_eq_error_iff] at found ⊢
      exact found
  | ok place =>
      obtain ⟨prepared, ready, searched⟩ := bind_eq_ok_iff.mp found
      have formed := Chain.exists_prepare_eq_ok_iff.mp ⟨prepared, ready⟩
      obtain ⟨again, still_ready⟩ :=
        (@Chain.exists_prepare_eq_ok_iff (session.withIndex index).view _ _).mpr formed
      refine bind_eq_ok_iff.mpr ⟨again, still_ready, ?_⟩
      rw [← searched]
      exact (Prepared.decides_of_prepare still_ready).search_eq (Prepared.decides_of_prepare ready)
        (fun _ => alike.resembles.symm.accepts_iff) _ 0

/-- A placement gives no node another name. -/
theorem Matches.place {turn position : Nat} {node : Node} (alike : session.Matches index)
    (found : session.locate (rules.map .standard) workload = .ok (some (position, node))) :
    (session.place turn workload position node).Matches index := by
  intro other listed
  rcases List.mem_or_eq_of_mem_set listed with old | rfl
  · exact alike other old
  · exact alike node (List.mem_of_getElem? (firstFit_of_locate found).getElem?_eq)

/-- A run of standard rules does the same with both indexes. -/
theorem Matches.placeAll_eq {turn : Nat} (alike : session.Matches index) :
    placeAll (rules.map .standard) turn batch (session.withIndex index) =
      (placeAll (rules.map .standard) turn batch session).map (·.withIndex index) id :=
  placeAll_map (·.withIndex index) (P := (·.Matches index)) (fun _ _ alike => alike.locate_eq)
    (fun _ _ _ _ _ => rfl) (fun _ _ => rfl) (fun _ _ _ _ _ alike found => alike.place found)
    alike

end Session

/-- A run cannot tell two indexes apart: it leaves the same assignments, the same mark and the same
nodes with both, and there is the same report or failure. -/
structure TopologyIndex.Interchangeable (left right : TopologyIndex) (chain : Chain)
    (snapshot : Snapshot) (batch : List Workload) : Prop where
  run_eq : (Session.start snapshot right batch).run chain =
    (((Session.start snapshot left batch).run chain).1.withIndex right,
      ((Session.start snapshot left batch).run chain).2)
  simulateWith_eq : simulateWith chain snapshot right batch = simulateWith chain snapshot left batch

theorem Session.Matches.interchangeable
    (alike : (Session.start snapshot left batch).Matches right) :
    left.Interchangeable right (rules.map .standard) snapshot batch := by
  have run_eq : (Session.start snapshot right batch).run (rules.map .standard) =
      (((Session.start snapshot left batch).run (rules.map .standard)).1.withIndex right,
        ((Session.start snapshot left batch).run (rules.map .standard)).2) :=
    alike.placeAll_eq
  refine ⟨run_eq, ?_⟩
  rw [simulateWith, simulateWith, run_eq]
  obtain ⟨final, outcome⟩ := (Session.start snapshot left batch).run (rules.map .standard)
  cases outcome <;> rfl

/-- **The index matters only through its imprints.** Take any chain of standard rules, and two
indexes that have the same imprints under the name of every node of the snapshot. No run over the
snapshot can tell them apart. In particular it cannot if under each of these names the workloads of
one index come from those of the other by changes that leave no trace, whatever the two hold under
other names. -/
theorem run_eq_of_imprints_eq (rules : List StandardRule) (snapshot : Snapshot)
    (left right : TopologyIndex) (batch : List Workload) :
    ((∀ node ∈ snapshot.nodes, left.imprints node.name = right.imprints node.name) →
      left.Interchangeable right (rules.map .standard) snapshot batch) ∧
    ((∀ node ∈ snapshot.nodes, Relation.ReflTransGen TopologyIndex.Rewords
        (left.workloadsOn node.name) (right.workloadsOn node.name)) →
      left.Interchangeable right (rules.map .standard) snapshot batch) := by
  have of_imprints : (∀ node ∈ snapshot.nodes, left.imprints node.name = right.imprints node.name) →
      left.Interchangeable right (rules.map .standard) snapshot batch :=
    fun alike => Session.Matches.interchangeable alike
  refine ⟨of_imprints, fun changes => of_imprints fun node listed => ?_⟩
  exact TopologyIndex.imprints_eq_of_rewords (changes node listed)

namespace Sample

def eastAndWest : Snapshot := { nodes := [dedicated "a" "east", dedicated "b" "west"] }

/-- A workload without terms. -/
def hermit : Workload := { database "hermit" with affinityTerms := [] }

def oneCache : TopologyIndex := ({} : TopologyIndex).insert "a" cache

/-- Two caches in place of one, and a database on a node that is not listed. -/
def moreCaches : TopologyIndex :=
  ((({} : TopologyIndex).insert "a" { cache with name := "copy" }).insert "a" cache).insert "gone"
    (database "db-0")

/-- Only in one of the indexes does anybody repel, so only there is the rule between workloads
followed. The hermit is placed all the same. -/
theorem run_eq_of_imprints_eq_caches :
    (∀ node ∈ eastAndWest.nodes, Relation.ReflTransGen TopologyIndex.Rewords
        (oneCache.workloadsOn node.name) (moreCaches.workloadsOn node.name)) ∧
      (eastAndWest.view oneCache).concerns hermit = false ∧
      (eastAndWest.view moreCaches).concerns hermit = true ∧
      oneCache.Interchangeable moreCaches .standard eastAndWest [hermit] := by
  have changes : ∀ node ∈ eastAndWest.nodes, Relation.ReflTransGen TopologyIndex.Rewords
      (oneCache.workloadsOn node.name) (moreCaches.workloadsOn node.name) := by
    refine List.forall_mem_cons.mpr ⟨?_, List.forall_mem_singleton.mpr .refl⟩
    have doubled : TopologyIndex.Rewords [cache] [cache, cache] :=
      .duplicate List.mem_cons_self
    have renamed : TopologyIndex.Rewords [cache, cache] [{ cache with name := "copy" }, cache] :=
      @TopologyIndex.Rewords.alter [] [cache] _ _ rfl fun _ _ => Iff.rfl
    exact .tail (.single doubled) renamed
  exact ⟨changes, by rfl, by rfl,
    (run_eq_of_imprints_eq StandardRule.all eastAndWest oneCache moreCaches [hermit]).2 changes⟩

end Sample

end Headroom
