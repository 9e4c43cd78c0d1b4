import Mathlib.Data.List.Forall2
/-!
# Checks and conversions in sequence

A check of a list goes through its elements in order and stops at the first failure: it succeeds
exactly when every element passes, and any failure is that of an element. A conversion does the same
and collects what the elements give (`mapM_eq_ok_iff`, `mapM_eq_error_iff`). A loop that passes over
some elements and takes in what the others convert to is a conversion followed by a plain loop
(`foldlM_eq_map_mapM`).
-/

namespace Headroom

variable {α β σ ε : Type}

theorem ok_bind (value : α) (next : α → Except ε β) : Except.ok value >>= next = next value := rfl

theorem error_bind (fault : ε) (next : α → Except ε β) :
    (Except.error fault >>= next : Except ε β) = .error fault := rfl

theorem bind_eq_ok_iff {first : Except ε α} {next : α → Except ε β} {result : β} :
    first >>= next = .ok result ↔ ∃ value, first = .ok value ∧ next value = .ok result := by
  cases first with
  | error fault => simp [bind, Except.bind]
  | ok value => simp [bind, Except.bind]

theorem bind_pure_eq_error_iff {first : Except ε α} {next : α → β} {fault : ε} :
    (do return next (← first)) = Except.error fault ↔ first = .error fault := by
  cases first <;> simp [bind, Except.bind, pure, Except.pure]

theorem mapError_eq_ok_iff {φ : Type} {rename : ε → φ} {outcome : Except ε α} {value : α} :
    outcome.mapError rename = .ok value ↔ outcome = .ok value := by
  cases outcome <;> simp [Except.mapError]

theorem mapError_eq_error_iff {φ : Type} {rename : ε → φ} {outcome : Except ε α} {fault : φ} :
    outcome.mapError rename = .error fault ↔
      ∃ found, outcome = .error found ∧ rename found = fault := by
  cases outcome <;> simp [Except.mapError]

theorem map_eq_ok_iff {change : α → β} {outcome : Except ε α} {value : β} :
    outcome.map change = .ok value ↔ ∃ found, outcome = .ok found ∧ change found = value := by
  cases outcome <;> simp [Except.map]

theorem toOption_eq_some_iff {outcome : Except ε α} {value : α} :
    outcome.toOption = some value ↔ outcome = .ok value := by
  cases outcome <;> simp [Except.toOption]

theorem forM_eq_ok_iff {check : α → Except ε Unit} {elements : List α} :
    elements.forM check = .ok () ↔ ∀ element ∈ elements, check element = .ok () := by
  induction elements with
  | nil => simp [pure, Except.pure]
  | cons head rest ih =>
      show (check head >>= fun _ => rest.forM check) = .ok () ↔ _
      simp only [bind_eq_ok_iff, ih, List.mem_cons, forall_eq_or_imp]
      constructor
      · rintro ⟨value, passes, others⟩
        exact ⟨passes, others⟩
      · rintro ⟨passes, others⟩
        exact ⟨(), passes, others⟩

theorem exists_mem_of_forM_eq_error {check : α → Except ε Unit} {elements : List α} {fault : ε}
    (failed : elements.forM check = .error fault) :
    ∃ element ∈ elements, check element = .error fault := by
  induction elements with
  | nil => simp [pure, Except.pure] at failed
  | cons head rest ih =>
      change (check head >>= fun _ => rest.forM check) = .error fault at failed
      cases first : check head with
      | error found =>
          rw [first] at failed
          exact ⟨head, List.mem_cons_self, first.trans failed⟩
      | ok value =>
          rw [first] at failed
          obtain ⟨element, member, fails⟩ := ih failed
          exact ⟨element, List.mem_cons_of_mem _ member, fails⟩

/-! ## Conversions -/

/-- The failure of the first element of a list that cannot be converted. -/
def FirstFailure (convert : α → Except ε β) (elements : List α) (fault : ε) : Prop :=
  ∃ before element after, elements = before ++ element :: after ∧
    (∀ other ∈ before, ∃ value, convert other = .ok value) ∧ convert element = .error fault

theorem mapM_eq_ok_iff {convert : α → Except ε β} {elements : List α} {values : List β} :
    elements.mapM convert = .ok values ↔
      List.Forall₂ (fun element value => convert element = .ok value) elements values := by
  induction elements generalizing values with
  | nil => cases values <;> simp [pure, Except.pure]
  | cons head rest ih =>
      rw [List.mapM_cons, bind_eq_ok_iff]
      simp only [bind_eq_ok_iff, ih]
      constructor
      · rintro ⟨value, first, others, later, same⟩
        cases same
        exact .cons first later
      · intro converted
        cases converted with
        | cons first later => exact ⟨_, first, _, later, rfl⟩

/-- What a conversion gives, element by element. -/
theorem eq_filterMap_of_mapM {convert : α → Except ε β} {elements : List α} {values : List β}
    (converted : elements.mapM convert = .ok values) :
    values = elements.filterMap fun element => (convert element).toOption := by
  rw [mapM_eq_ok_iff] at converted
  induction converted with
  | nil => rfl
  | cons same _ ih =>
      rw [List.filterMap_cons_some (by rw [same]; rfl), ← ih]

theorem exists_mem_of_mem_mapM {convert : α → Except ε β} {elements : List α} {values : List β}
    (converted : elements.mapM convert = .ok values) {value : β} (member : value ∈ values) :
    ∃ element ∈ elements, convert element = .ok value := by
  rw [mapM_eq_ok_iff] at converted
  induction converted with
  | nil => contradiction
  | @cons head first rest others same _ ih =>
      rcases List.mem_cons.mp member with rfl | later
      · exact ⟨head, List.mem_cons_self, same⟩
      · obtain ⟨element, found, gives⟩ := ih later
        exact ⟨element, List.mem_cons_of_mem _ found, gives⟩

theorem getElem?_of_mapM_eq_ok {convert : α → Except ε β} {elements : List α} {values : List β}
    (converted : elements.mapM convert = .ok values) {position : Nat} {element : α}
    (here : elements[position]? = some element) :
    ∃ value, values[position]? = some value ∧ convert element = .ok value := by
  rw [mapM_eq_ok_iff] at converted
  induction converted generalizing position with
  | nil => contradiction
  | cons same _ ih =>
      cases position with
      | zero =>
          cases here
          exact ⟨_, rfl, same⟩
      | succ position => exact ih here

/-- A conversion succeeds when every element can be converted. -/
theorem exists_mapM_eq_ok_iff {convert : α → Except ε β} {elements : List α} :
    (∃ values, elements.mapM convert = .ok values) ↔
      ∀ element ∈ elements, ∃ value, convert element = .ok value := by
  induction elements with
  | nil => simp [pure, Except.pure]
  | cons head rest ih =>
      rw [List.forall_mem_cons, ← ih, List.mapM_cons]
      simp only [bind_eq_ok_iff]
      constructor
      · rintro ⟨values, value, first, others, later, -⟩
        exact ⟨⟨value, first⟩, others, later⟩
      · rintro ⟨⟨value, first⟩, others, later⟩
        exact ⟨value :: others, value, first, others, later, rfl⟩

/-- The first failure is that of the head, or else that of the rest. -/
theorem firstFailure_cons_iff {convert : α → Except ε β} {head : α} {rest : List α} {fault : ε} :
    FirstFailure convert (head :: rest) fault ↔ convert head = .error fault ∨
      (∃ value, convert head = .ok value) ∧ FirstFailure convert rest fault := by
  constructor
  · rintro ⟨before, element, after, split, earlier, failed⟩
    cases before with
    | nil =>
        rw [List.nil_append, List.cons.injEq] at split
        rw [split.1]
        exact .inl failed
    | cons other others =>
        rw [List.cons_append, List.cons.injEq] at split
        rw [List.forall_mem_cons] at earlier
        rw [split.1]
        exact .inr ⟨earlier.1, others, element, after, split.2, earlier.2, failed⟩
  · rintro (failed | ⟨converted, before, element, after, rfl, earlier, failed⟩)
    · exact ⟨[], head, rest, rfl, by simp, failed⟩
    · refine ⟨head :: before, element, after, rfl, ?_, failed⟩
      exact List.forall_mem_cons.mpr ⟨converted, earlier⟩

theorem mapM_eq_error_iff {convert : α → Except ε β} {elements : List α} {fault : ε} :
    elements.mapM convert = .error fault ↔ FirstFailure convert elements fault := by
  induction elements with
  | nil => simp [pure, Except.pure, FirstFailure]
  | cons head rest ih =>
      rw [List.mapM_cons, firstFailure_cons_iff]
      cases first : convert head with
      | error found =>
          rw [error_bind]
          simp
      | ok value =>
          rw [ok_bind, bind_pure_eq_error_iff, ih]
          simp

/-- A loop comes to its end if each step can be made, whatever the state. -/
theorem exists_foldlM_eq_ok_iff {passes : α → Prop} {step : σ → α → Except ε σ}
    (steps : ∀ state element, (∃ next, step state element = .ok next) ↔ passes element)
    {elements : List α} (state : σ) :
    (∃ final, elements.foldlM step state = .ok final) ↔ ∀ element ∈ elements, passes element := by
  induction elements generalizing state with
  | nil => simp [pure, Except.pure]
  | cons head rest ih =>
      rw [List.forall_mem_cons, ← steps state head, List.foldlM_cons]
      simp only [bind_eq_ok_iff]
      constructor
      · rintro ⟨final, next, first, later⟩
        exact ⟨⟨next, first⟩, (ih next).mp ⟨final, later⟩⟩
      · rintro ⟨⟨next, first⟩, later⟩
        obtain ⟨final, ended⟩ := (ih next).mpr later
        exact ⟨final, next, first, ended⟩

/-- What holds of the state before a loop and is kept by each step holds of the state after it. -/
theorem foldlM_induction {P : σ → Prop} {step : σ → α → Except ε σ} {elements : List α}
    (keeps : ∀ state next, ∀ element ∈ elements, P state → step state element = .ok next → P next)
    {state final : σ} (start : P state) (ran : elements.foldlM step state = .ok final) :
    P final := by
  induction elements generalizing state with
  | nil =>
      cases ran
      exact start
  | cons head rest ih =>
      rw [List.foldlM_cons, bind_eq_ok_iff] at ran
      obtain ⟨next, first, later⟩ := ran
      have kept := keeps state next head List.mem_cons_self start first
      refine ih (fun state next element member => ?_) kept later
      exact keeps state next element (List.mem_cons_of_mem _ member)

/-- A loop that takes in what every element converts to converts all of them first. -/
theorem foldlM_convert_eq {convert : α → Except ε β} {take : σ → β → σ} (elements : List α)
    (state : σ) :
    elements.foldlM (fun state element => do return take state (← convert element)) state =
      (elements.mapM convert).map fun values => values.foldl take state := by
  induction elements generalizing state with
  | nil => rfl
  | cons head rest ih =>
      rw [List.foldlM_cons, List.mapM_cons]
      cases convert head with
      | error fault => rfl
      | ok value =>
          show rest.foldlM _ (take state value) = _
          rw [ih, ok_bind]
          cases rest.mapM convert <;> rfl

/-- A loop that passes over the elements that do not count and takes in what the others convert to
converts these first, as long as its state keeps the property that the step is known under. -/
theorem foldlM_eq_map_mapM {Keeps : σ → Prop} {counts : α → Prop} [DecidablePred counts]
    {convert : α → Except ε β} {take : σ → β → σ} {step : σ → α → Except ε σ}
    (keeps : ∀ state value, Keeps state → Keeps (take state value))
    (steps : ∀ state element, Keeps state → step state element =
      if counts element then (convert element).map (take state) else .ok state)
    (elements : List α) {state : σ} (start : Keeps state) :
    elements.foldlM step state =
      ((elements.filter (counts ·)).mapM convert).map fun values => values.foldl take state := by
  induction elements generalizing state with
  | nil => rfl
  | cons head rest ih =>
      rw [List.foldlM_cons, steps state head start]
      by_cases counted : counts head
      · rw [if_pos counted, List.filter_cons_of_pos (by simpa using counted), List.mapM_cons]
        cases convert head with
        | error fault => rfl
        | ok value =>
            show rest.foldlM step (take state value) = _
            rw [ih (keeps state value start), ok_bind]
            cases (rest.filter (counts ·)).mapM convert <;> rfl
      · rw [if_neg counted, List.filter_cons_of_neg (by simpa using counted)]
        exact ih start

end Headroom
