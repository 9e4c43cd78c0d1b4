import Headroom.Failure
/-!
# Inquiries that take time

An inquiry asks questions of the cluster, takes some milliseconds, and gives a result or halts. A
limit cuts an inquiry off. What ends exactly at the limit is in time, and so is a question that is
asked then; but a question that has to go out to a server is only sent while the asker waits, and at
the limit there is no time to wait any more.
-/

namespace Headroom

/-- A question put to the cluster. -/
inductive Request where
  | nodes
  | pods
  /-- The listing that a watch begins with, restricted by a label selector. -/
  | watch (labels : Option String)
deriving DecidableEq

/-- A question that an inquiry has asked. -/
structure Asked where
  request : Request
  /-- The milliseconds that had passed. -/
  moment : Nat := 0
  /-- Whether the question goes out to a server. -/
  remote : Bool
deriving DecidableEq

namespace Asked

/-- The question as it looks when other things come first. -/
def after (elapsed : Nat) (asked : Asked) : Asked :=
  { asked with moment := elapsed + asked.moment }

/-- Whether a question can still be asked within a limit in milliseconds. -/
def inTime (limit : Nat) (asked : Asked) : Bool :=
  if asked.remote then asked.moment < limit else asked.moment ≤ limit

theorem moment_le_of_inTime {limit : Nat} {asked : Asked} (early : asked.inTime limit = true) :
    asked.moment ≤ limit := by
  unfold inTime at early
  split at early
  · exact Nat.le_of_lt (of_decide_eq_true early)
  · exact of_decide_eq_true early

end Asked

/-- Why an inquiry has no result. -/
inductive Halt where
  | failure (failure : Failure)
  /-- A deadline lies beyond the last moment that the clock can show. -/
  | clockRange
deriving DecidableEq

/-- A computation that takes time. Its questions are asked while it lasts. -/
structure Inquiry (α : Type) where
  /-- The questions asked, in order. -/
  asked : List Asked := []
  /-- How many milliseconds pass. -/
  duration : Nat := 0
  result : Except Halt α
  moment_le : ∀ question ∈ asked, question.moment ≤ duration := by simp

namespace Inquiry

variable {α β : Type}

/-- The inquiry that is done at once. -/
def pure (value : α) : Inquiry α := { result := .ok value }

theorem moment_le_append (first : Inquiry α) (second : Inquiry β) :
    ∀ question ∈ first.asked ++ second.asked.map (·.after first.duration),
      question.moment ≤ first.duration + second.duration := by
  intro question member
  rcases List.mem_append.mp member with early | late
  · exact Nat.le_add_right_of_le (first.moment_le question early)
  · obtain ⟨asked, found, rfl⟩ := List.mem_map.mp late
    exact Nat.add_le_add_left (second.moment_le asked found) first.duration

/-- One inquiry after another. The second begins when the first ends, unless that one halts. -/
def bind (first : Inquiry α) (next : α → Inquiry β) : Inquiry β :=
  match first.result with
  | .error halt => { first with result := .error halt }
  | .ok value =>
      let second := next value
      { asked := first.asked ++ second.asked.map (·.after first.duration)
        duration := first.duration + second.duration
        result := second.result
        moment_le := moment_le_append first second }

instance : Monad Inquiry where
  pure := pure
  bind := bind

/-- The inquiry that halts at once. -/
def halt (reason : Halt) : Inquiry α := { result := .error reason }

/-- The inquiry that fails at once. -/
def fail (failure : Failure) : Inquiry α := halt (.failure failure)

/-- The inquiry with a given outcome, which takes no time. -/
def ofExcept (outcome : Except Failure α) : Inquiry α := { result := outcome.mapError .failure }

/-- Waits. -/
def pause (milliseconds : Nat) : Inquiry Unit := { duration := milliseconds, result := .ok () }

/-- Asks a question that is answered on the spot. -/
def ask (request : Request) : Inquiry Unit :=
  { asked := [{ request, remote := false }], result := .ok () }

/-- Sends a question to a server. Waiting for the answer is left to the caller. -/
def send (request : Request) : Inquiry Unit :=
  { asked := [{ request, remote := true }], result := .ok () }

/-- The questions asked, without the circumstances. -/
def requests (inquiry : Inquiry α) : List Request := inquiry.asked.map (·.request)

/-- The inquiry with its duration as part of the result. -/
def timed (inquiry : Inquiry α) : Inquiry (α × Nat) :=
  { inquiry with result := inquiry.result.map fun value => (value, inquiry.duration) }

/-- Whether the inquiry comes to its end within a limit in milliseconds. -/
def inTime (limit : Nat) (inquiry : Inquiry α) : Bool :=
  inquiry.duration ≤ limit && inquiry.asked.all (·.inTime limit)

/-- The inquiry, cut off with a failure when it does not end within a limit in milliseconds. -/
def within (limit : Nat) (late : Failure) (inquiry : Inquiry α) : Inquiry α :=
  if inquiry.inTime limit then inquiry
  else
    { asked := inquiry.asked.filter (·.inTime limit)
      duration := limit
      result := .error (.failure late)
      moment_le := fun _ member => Asked.moment_le_of_inTime (List.mem_filter.mp member).2 }

end Inquiry

end Headroom
