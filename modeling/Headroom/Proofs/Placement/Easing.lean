import Headroom.Proofs.Placement.Relaxation
/-!
# Estimates grow with what is offered

An estimate can be made easier by asking for less and by offering more. Each such change keeps the
capacity for the workloads of a profile, or raises it (`Setting.Relaxes.capacity_le`), so any number
of changes does (`Setting.capacity_le`), and a uniform run places as many as there is capacity for.
The runs themselves may have no placement in common (`easier_setting_places_no_fewer`).
-/

namespace Headroom

/-- A profile, and the snapshot that it is estimated for. -/
structure Setting where
  profile : Profile
  snapshot : Snapshot
deriving DecidableEq

namespace Setting

/-- What the rules see at the start. -/
def view (setting : Setting) : ClusterView :=
  setting.snapshot.view (.ofSnapshot setting.snapshot)

/-- The report on a number of workloads of the profile. -/
def simulate (setting : Setting) (count : Nat) : Except Failure Report :=
  Headroom.simulate setting.snapshot (.ofSnapshot setting.snapshot)
    (setting.profile.workloads count)

/-- A well-formed profile, and a snapshot in which no workload asks for anything negative. -/
structure Regular (setting : Setting) : Prop where
  formed : (setting.profile.workload 0).WellFormed
  nonnegative : ∀ entry ∈ setting.snapshot.running, entry.2.NonNegative

/-- A change to one of the two. -/
inductive Relaxes : Setting → Setting → Prop
  | profile {profile easier : Profile} {snapshot : Snapshot} : profile.Relaxes easier →
      Relaxes { profile, snapshot } { profile := easier, snapshot }
  | snapshot {profile : Profile} {snapshot larger : Snapshot} : snapshot.Relaxes larger →
      Relaxes { profile, snapshot } { profile, snapshot := larger }

end Setting

variable {profile easier : Profile} {snapshot larger : Snapshot} {view other wider : ClusterView}
  {newcomer : Node} {setting : Setting}

/-! ## Capacity -/

/-- Pairs of elements pass for whatever the first of them passes, so as many are left. -/
theorem map_filter_sublist {α β : Type} {related : α → α → Prop} {label : α → β}
    {passes passed : α → Bool} {left right : List α} (paired : List.Forall₂ related left right)
    (alike : ∀ one other, related one other → label other = label one)
    (kept : ∀ one other, related one other → passes one = true → passed other = true) :
    ((left.filter passes).map label).Sublist ((right.filter passed).map label) := by
  induction paired with
  | nil => exact .slnil
  | @cons one other rest others pair _ ih =>
      by_cases here : passes one = true
      · rw [List.filter_cons_of_pos here, List.filter_cons_of_pos (kept one other pair here),
          List.map_cons, List.map_cons, alike one other pair]
        exact ih.cons_cons _
      · rw [List.filter_cons_of_neg here]
        exact ih.trans (((List.sublist_cons_self other others).filter passed).map label)

theorem forall₂_set {α : Type} {related : α → α → Prop} (refl : ∀ one, related one one)
    {list : List α} {position : Nat} {one other : α} (stands : list[position]? = some one)
    (pair : related one other) : List.Forall₂ related list (list.set position other) := by
  induction list generalizing position with
  | nil => contradiction
  | cons head rest ih =>
      cases position with
      | zero =>
          rw [List.getElem?_cons_zero, Option.some.injEq] at stands
          exact .cons (stands ▸ pair) (List.forall₂_same.mpr fun other _ => refl other)
      | succ position =>
          rw [List.getElem?_cons_succ] at stands
          exact .cons (refl head) (ih stands)

namespace Profile

theorem capacity_le_of_forall₂ (formed : (profile.workload 0).WellFormed)
    (still_formed : (easier.workload 0).WellFormed)
    (spread : ∀ key ∈ easier.spreadBy, key ∈ profile.spreadBy)
    (mild : (profile.workload 0).Milder (easier.workload 0)) (calm : view.Calmer other)
    (paired : List.Forall₂ Node.Roomier view.nodes other.nodes) :
    profile.capacity view ≤ easier.capacity other := by
  rw [capacity, capacity, eligible_eq_filter formed, eligible_eq_filter still_formed]
  refine spreadCapacity_le_of_dropped spread (map_filter_sublist paired ?_ ?_)
  · intro node better room
    exact room.labels_eq
  · intro node better room accepted
    have accepts := of_decide_eq_true accepted
    exact decide_eq_true (accepts.mono solitary_workload calm room mild)

theorem capacity_le_of_widens (formed : (profile.workload 0).WellFormed)
    (wide : view.Widens newcomer wider) : profile.capacity view ≤ profile.capacity wider := by
  obtain ⟨before, after, without, within⟩ := wide.split
  have longer : view.nodes.Sublist wider.nodes := by
    rw [without, within]
    exact (List.sublist_cons_self newcomer after).append_left before
  rw [capacity, capacity, eligible_eq_filter formed, eligible_eq_filter formed]
  simp only [wide.accepts_iff]
  exact spreadCapacity_le_of_sublist (longer.filter _)

end Profile

namespace Snapshot

theorem Roomier.capacity_le (roomier : snapshot.Roomier larger)
    (formed : (profile.workload 0).WellFormed) :
    profile.capacity (snapshot.view (.ofSnapshot snapshot)) ≤
      profile.capacity (larger.view (.ofSnapshot larger)) :=
  Profile.capacity_le_of_forall₂ formed formed (fun _ spread => spread) (.refl _) roomier.calmer
    roomier.nodes

theorem Relaxes.capacity_le (relaxes : snapshot.Relaxes larger)
    (formed : (profile.workload 0).WellFormed)
    (nonnegative : ∀ entry ∈ snapshot.running, entry.2.NonNegative) :
    profile.capacity (snapshot.view (.ofSnapshot snapshot)) ≤
      profile.capacity (larger.view (.ofSnapshot larger)) := by
  have still_runs := relaxes.running_subset
  cases relaxes with
  | node stands relaxed =>
      have roomier : snapshot.Roomier _ := ⟨forall₂_set .refl stands relaxed.roomier, still_runs⟩
      exact roomier.capacity_le formed
  | @release _ blank early late workload _ _ stands runs =>
      -- the books of the node start lower, and nobody is repelled by who has gone
      have asked : workload.NonNegative := nonnegative (blank.name, workload) (by simp [runs])
      have room := Node.roomier_bindAll asked blank early late
      have roomier : snapshot.Roomier _ := ⟨forall₂_set .refl stands room, still_runs⟩
      exact roomier.capacity_le formed
  | @insert newcomer position unplaced unused =>
      have vacant : newcomer.Vacant (.ofSnapshot snapshot) := by
        refine ⟨unplaced, List.eq_nil_iff_forall_not_mem.mpr ?_⟩
        intro workload runs
        exact unused _ (TopologyIndex.mem_workloadsOn_ofSnapshot_iff.mp runs) rfl
      exact Profile.capacity_le_of_widens formed (widens_insertNode vacant position)
  | permute same =>
      exact (Profile.capacity_view_eq_of_perm formed (.ofSnapshot snapshot) same).le

end Snapshot

namespace Setting

/-- The number of workloads of the profile that can be placed. -/
def capacity (setting : Setting) : Nat := setting.profile.capacity setting.view

variable {easier : Setting}

/-- What a snapshot goes through, an estimate for it goes through. -/
theorem changes_of_snapshot (changes : Relation.ReflTransGen Snapshot.Relaxes snapshot larger)
    (profile : Profile) :
    Relation.ReflTransGen Relaxes { profile, snapshot } { profile, snapshot := larger } := by
  induction changes with
  | refl => exact .refl
  | tail _ last ih => exact ih.tail (.snapshot last)

theorem Relaxes.regular (relaxes : setting.Relaxes easier) (regular : setting.Regular) :
    easier.Regular := by
  obtain ⟨formed, nonnegative⟩ := regular
  cases relaxes with
  | profile relaxed => exact ⟨relaxed.wellFormed formed, nonnegative⟩
  | snapshot relaxed =>
      exact ⟨formed, fun entry member => nonnegative entry (relaxed.running_subset member)⟩

/-- No single change lowers the capacity. -/
theorem Relaxes.capacity_le (relaxes : setting.Relaxes easier) (regular : setting.Regular) :
    setting.capacity ≤ easier.capacity := by
  obtain ⟨formed, nonnegative⟩ := regular
  cases relaxes with
  | profile relaxed =>
      refine Profile.capacity_le_of_forall₂ formed (relaxed.wellFormed formed) relaxed.spreadBy
        (relaxed.milder 0) (.refl _) ?_
      exact List.forall₂_same.mpr fun node _ => .refl node
  | snapshot relaxed => exact relaxed.capacity_le formed nonnegative

/-- Nor does any number of changes, one after the other. -/
theorem capacity_le (changes : Relation.ReflTransGen Relaxes setting easier)
    (regular : setting.Regular) : easier.Regular ∧ setting.capacity ≤ easier.capacity := by
  induction changes with
  | refl => exact ⟨regular, Nat.le_refl _⟩
  | tail _ last ih =>
      obtain ⟨still_regular, grown⟩ := ih
      exact ⟨last.regular still_regular, grown.trans (last.capacity_le still_regular)⟩

/-- What a report on a setting says. -/
theorem exists_simulate_eq_ok (regular : setting.Regular) (count : Nat) :
    ∃ report, setting.simulate count = .ok report ∧
      report.assignments.length = min count setting.capacity ∧
      (report.verdict = .feasible ↔ count ≤ setting.capacity) := by
  obtain ⟨report, simulated, placed, verdict⟩ := Headroom.exists_simulate_eq_ok regular.formed
    setting.snapshot (.ofSnapshot setting.snapshot) count
  refine ⟨report, simulated, placed, ?_⟩
  rw [verdict, capacity, view]
  split <;> simp [*]

end Setting

/-- **An easier estimate is no worse.** Lower what a profile asks for, or raise what a snapshot
offers, in any number of changes of any kind. As many workloads of the profile are placed as before,
or more, and a feasible verdict stays so, also if fewer workloads are asked about. -/
theorem easier_setting_places_no_fewer {easier : Setting}
    (changes : Relation.ReflTransGen Setting.Relaxes setting easier) (regular : setting.Regular)
    (count : Nat) :
    ∃ report again, setting.simulate count = .ok report ∧ easier.simulate count = .ok again ∧
      report.assignments.length ≤ again.assignments.length ∧
      (report.verdict = .feasible → again.verdict = .feasible) ∧
      ∀ fewer ≤ count, report.verdict = .feasible →
        ∃ last, easier.simulate fewer = .ok last ∧ last.verdict = .feasible := by
  obtain ⟨still_regular, grown⟩ := Setting.capacity_le changes regular
  obtain ⟨report, simulated, placed, feasible_iff⟩ := Setting.exists_simulate_eq_ok regular count
  obtain ⟨again, repeated, placed_again, feasible_again_iff⟩ :=
    Setting.exists_simulate_eq_ok still_regular count
  refine ⟨report, again, simulated, repeated, ?_, ?_, ?_⟩
  · rw [placed, placed_again]
    exact min_le_min_left count grown
  · intro feasible
    exact feasible_again_iff.mpr ((feasible_iff.mp feasible).trans grown)
  · intro fewer below feasible
    obtain ⟨last, asked, -, feasible_last_iff⟩ :=
      Setting.exists_simulate_eq_ok still_regular fewer
    have enough := (feasible_iff.mp feasible).trans grown
    exact ⟨last, asked, feasible_last_iff.mpr (below.trans enough)⟩

namespace Sample

def closed : Node := { roomy "b" "east" with cordoned := true }

def onlyZone : Snapshot := { nodes := [roomy "a" "east", closed] }

/-- A workload of the profile runs on the first node, so the zone is taken. -/
def crowded : Setting :=
  { profile := onePerZone, snapshot := onlyZone.bindAll [("a", onePerZone.workload 0)] }

/-- The workload has gone, the second node is open, and the zone may be shared. -/
def relieved : Setting :=
  { profile := { onePerZone with spreadBy := none }
    snapshot := { nodes := [roomy "a" "east", roomy "b" "east"] } }

/-- Three changes make room for two workloads where there was none. -/
theorem easier_setting_places_no_fewer_crowded :
    Relation.ReflTransGen Setting.Relaxes crowded relieved ∧ crowded.Regular ∧
      ∃ report again, crowded.simulate 2 = .ok report ∧ relieved.simulate 2 = .ok again ∧
        report.assignments.length = 0 ∧ again.assignments.length = 2 ∧
        report.assignments.length ≤ again.assignments.length := by
  have released : Relation.ReflTransGen Snapshot.Relaxes crowded.snapshot onlyZone :=
    Snapshot.relaxes_bindAll_of_sublist (List.nil_sublist _) (by decide)
  have opened : onlyZone.Relaxes relieved.snapshot :=
    @Snapshot.Relaxes.node onlyZone 1 closed _ rfl .uncordon
  have gathered : onePerZone.Relaxes relieved.profile := .gather
  have changes : Relation.ReflTransGen Setting.Relaxes crowded relieved :=
    (Setting.changes_of_snapshot (released.tail opened) onePerZone).tail (.profile gathered)
  have regular : crowded.Regular := ⟨fun rule => by cases rule <;> rfl, by decide⟩
  obtain ⟨report, again, simulated, repeated, grown, -, -⟩ :=
    easier_setting_places_no_fewer changes regular 2
  have before : (crowded.simulate 2).map (·.assignments.length) = .ok 0 := by rfl
  have after : (relieved.simulate 2).map (·.assignments.length) = .ok 2 := by rfl
  rw [simulated] at before
  rw [repeated] at after
  exact ⟨changes, regular, report, again, simulated, repeated, Except.ok.inj before,
    Except.ok.inj after, grown⟩

end Sample

end Headroom
