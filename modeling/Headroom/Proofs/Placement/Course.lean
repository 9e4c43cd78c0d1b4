import Headroom.Proofs.Placement.Run
/-!
# The course of a run

A run passes through the states that placements lead to (`Session.Reaches`) and comes to an end in
one of three ways (`Session.Ends`): every workload has been placed, one fits nowhere, or one is
malformed. Whatever a placement keeps therefore holds in every state on the way, and at the end. The
turns that a run counts are the numbers of workloads placed before, and in a session without earlier
assignments also the numbers of assignments (`Session.Reaches.turn_eq`).
-/

namespace Headroom.Session

variable {chain : Chain} {start session final : Session} {placed rest batch : List Workload}
  {workload : Workload} {turn position : Nat} {node : Node} {outcome : Except Failure Unit}

/-- From the start some workloads have been placed, in this order, each in its turn on the node that
the chain found for it in the state left by those before. -/
inductive Reaches (chain : Chain) (start : Session) : List Workload → Session → Prop
  | start : Reaches chain start [] start
  | place {placed : List Workload} {session : Session} {workload : Workload} {position : Nat}
      {node : Node} : Reaches chain start placed session →
      session.locate chain workload = .ok (some (position, node)) →
      Reaches chain start (placed ++ [workload])
        (session.place placed.length workload position node)

/-- How a run that has come to a state in some turn ends, given the workloads that are left. -/
inductive Ends (chain : Chain) (turn : Nat) (session : Session) :
    List Workload → Session → Except Failure Unit → Prop
  | complete : Ends chain turn session [] session (.ok ())
  | unplaceable {workload : Workload} {rest : List Workload} :
      session.locate chain workload = .ok none →
      Ends chain turn session (workload :: rest) (session.giveUp turn) (.ok ())
  | malformed {workload : Workload} {rest : List Workload} {rejection : Rejection} :
      session.locate chain workload = .error rejection →
      Ends chain turn session (workload :: rest) session
        (.error (.admission workload.name rejection))

theorem Reaches.index_eq (reached : Reaches chain start placed session) :
    session.index = start.index := by
  induction reached with
  | start => rfl
  | place _ _ ih => exact ih

theorem Reaches.batch_eq (reached : Reaches chain start placed session) :
    session.batch = start.batch := by
  induction reached with
  | start => rfl
  | place _ _ ih => exact ih

theorem Reaches.firstUnplaced_eq (reached : Reaches chain start placed session) :
    session.firstUnplaced = start.firstUnplaced := by
  induction reached with
  | start => rfl
  | place _ _ ih => exact ih

theorem Reaches.length_assignments (reached : Reaches chain start placed session) :
    session.assignments.length = start.assignments.length + placed.length := by
  induction reached with
  | start => rfl
  | place _ _ ih =>
      show (_ ++ [_] : List Assignment).length = _
      rw [List.length_append, ih, List.length_append, Nat.add_assoc]
      rfl

/-- In a session without earlier assignments, the turn of the next workload is the number of
assignments that have been made. -/
theorem Reaches.turn_eq {snapshot : Snapshot} {index : TopologyIndex}
    (reached : Reaches chain (Session.start snapshot index batch) placed session) :
    placed.length = session.assignments.length := by
  rw [reached.length_assignments]
  exact (Nat.zero_add _).symm

/-- A run over all of a batch goes on from each state that it reaches, in the turn after those of
the workloads that have been placed. -/
theorem Reaches.placeAll_append (reached : Reaches chain start placed session)
    (rest : List Workload) :
    placeAll chain 0 (placed ++ rest) start = placeAll chain placed.length rest session := by
  induction reached generalizing rest with
  | start => rfl
  | @place placed session workload position node _ found ih =>
      rw [List.append_assoc, ih, List.singleton_append, List.length_append, List.length_singleton]
      simp only [placeAll, found]

/-- A run over workloads that can all be placed comes to the state that they lead to. -/
theorem Reaches.placeAll_eq (reached : Reaches chain start placed session) :
    placeAll chain 0 placed start = (session, .ok ()) := by
  have whole := reached.placeAll_append []
  rwa [List.append_nil] at whole

/-- Where some workloads have been placed, any first of them have been placed before. -/
theorem Reaches.exists_take (reached : Reaches chain start placed session) (count : Nat) :
    ∃ earlier, Reaches chain start (placed.take count) earlier ∧
      earlier.assignments = session.assignments.take (start.assignments.length + count) := by
  induction reached with
  | start =>
      refine ⟨start, by simpa using .start, ?_⟩
      rw [List.take_of_length_le (Nat.le_add_right _ count)]
  | @place placed session workload position node reached found ih =>
      by_cases before : count ≤ placed.length
      · obtain ⟨earlier, first, same⟩ := ih
        refine ⟨earlier, by rwa [List.take_append_of_le_length before], ?_⟩
        have within : start.assignments.length + count ≤ session.assignments.length := by
          rw [reached.length_assignments]
          omega
        show _ = (session.assignments ++ [_]).take _
        rw [same, List.take_append_of_le_length within]
      · have last := reached.place found
        have all : (placed ++ [workload]).length ≤ count := by
          rw [List.length_append, List.length_singleton]
          omega
        refine ⟨session.place placed.length workload position node, ?_, ?_⟩
        · rwa [List.take_of_length_le all]
        · rw [List.take_of_length_le]
          rw [last.length_assignments]
          omega

/-- A run places the workloads at the head of its batch, as many as it can, and then ends. -/
theorem exists_reaches_placeAll (reached : Reaches chain start placed session)
    (batch : List Workload) :
    ∃ all rest last, placed ++ batch = all ++ rest ∧ Reaches chain start all last ∧
      Ends chain all.length last rest (placeAll chain placed.length batch session).1
        (placeAll chain placed.length batch session).2 := by
  induction batch generalizing placed session with
  | nil => exact ⟨placed, [], session, rfl, reached, .complete⟩
  | cons workload rest ih =>
      unfold placeAll
      split
      · next rejection failed =>
          exact ⟨placed, workload :: rest, session, rfl, reached, .malformed failed⟩
      · next nowhere =>
          exact ⟨placed, workload :: rest, session, rfl, reached, .unplaceable nowhere⟩
      · next position node found =>
          obtain ⟨all, left, last, split, further, ends⟩ := ih (reached.place found)
          rw [List.append_assoc] at split
          rw [List.length_append, List.length_singleton] at ends
          exact ⟨all, left, last, split, further, ends⟩

theorem exists_reaches_run (chain : Chain) (session : Session) :
    ∃ placed rest last, session.batch = placed ++ rest ∧ Reaches chain session placed last ∧
      Ends chain placed.length last rest (session.run chain).1 (session.run chain).2 :=
  exists_reaches_placeAll .start session.batch

/-- The end of a run leaves the last state as it is, apart from the mark on it. -/
theorem Ends.eq_or_eq_giveUp (ends : Ends chain turn session rest final outcome) :
    final = session ∨ final = session.giveUp turn := by
  cases ends with
  | complete => exact .inl rfl
  | unplaceable => exact .inr rfl
  | malformed => exact .inl rfl

theorem Ends.assignments_eq (ends : Ends chain turn session rest final outcome) :
    final.assignments = session.assignments := by
  rcases ends.eq_or_eq_giveUp with rfl | rfl <;> rfl

/-- A run from the very start divides its batch into what it places, with an assignment for each,
and what is left. -/
theorem exists_reaches_run_start (chain : Chain) (snapshot : Snapshot) (index : TopologyIndex)
    (batch : List Workload) :
    ∃ placed rest last, batch = placed ++ rest ∧
      Reaches chain (Session.start snapshot index batch) placed last ∧
      Ends chain placed.length last rest ((Session.start snapshot index batch).run chain).1
        ((Session.start snapshot index batch).run chain).2 ∧
      ((Session.start snapshot index batch).run chain).1.assignments.length = placed.length := by
  obtain ⟨placed, rest, last, split, reached, ends⟩ :=
    exists_reaches_run chain (Session.start snapshot index batch)
  refine ⟨placed, rest, last, split, reached, ends, ?_⟩
  rw [ends.assignments_eq, reached.turn_eq]

theorem Ends.placeAll_eq (ends : Ends chain turn session rest final outcome) :
    placeAll chain turn rest session = (final, outcome) := by
  cases ends with
  | complete => rfl
  | unplaceable nowhere => simp only [placeAll, nowhere]
  | malformed objects => simp only [placeAll, objects]

/-- The workload that ends a run ends it also if fewer workloads come after it. -/
theorem Ends.take (ends : Ends chain turn session rest final outcome) {count : Nat}
    (positive : 0 < count) : Ends chain turn session (rest.take count) final outcome := by
  obtain ⟨fewer, rfl⟩ := Nat.exists_eq_add_of_lt positive
  cases ends with
  | complete => simpa using .complete
  | unplaceable nowhere => exact .unplaceable nowhere
  | malformed objects => exact .malformed objects

/-! ## Two runs side by side -/

/-- A change to sessions that no search notices, and that placements leave as it is, comes through a
whole run: the changed session ends as the session does, changed. -/
theorem placeAll_map (change : Session → Session) {P : Session → Prop}
    (locates : ∀ session workload, P session →
      (change session).locate chain workload = session.locate chain workload)
    (places : ∀ session turn workload position node,
      (change session).place turn workload position node =
        change (session.place turn workload position node))
    (givesUp : ∀ session turn, (change session).giveUp turn = change (session.giveUp turn))
    (keeps : ∀ session turn workload position node, P session →
      session.locate chain workload = .ok (some (position, node)) →
        P (session.place turn workload position node))
    (start : P session) :
    placeAll chain turn batch (change session) =
      (placeAll chain turn batch session).map change id := by
  induction batch generalizing turn session with
  | nil => rfl
  | cons workload rest ih =>
      unfold placeAll
      rw [locates session workload start]
      cases found : session.locate chain workload with
      | error rejection => rfl
      | ok place =>
          cases place with
          | none => exact congrArg (·, Except.ok ()) (givesUp session turn)
          | some target =>
              obtain ⟨position, node⟩ := target
              show placeAll chain (turn + 1) rest
                ((change session).place turn workload position node) = _
              rw [places]
              exact ih (keeps session turn workload position node start found)

end Headroom.Session
