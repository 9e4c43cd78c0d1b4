import Headroom.Inquiry
import Headroom.Proofs.Except
/-!
# What inquiries come to

Inquiries in sequence come to what their results come to, however long they take. Time only matters
under a limit, and all that it can do is to make the inquiry late.
-/

namespace Headroom.Inquiry

variable {α β : Type} {inquiry : Inquiry α} {limit : Nat} {late : Failure}

@[simp] theorem result_pure (value : α) : (Pure.pure value : Inquiry α).result = .ok value := rfl

@[simp] theorem result_ofExcept (outcome : Except Failure α) :
    (ofExcept outcome).result = outcome.mapError .failure := rfl

@[simp] theorem result_timed (inquiry : Inquiry α) :
    inquiry.timed.result = inquiry.result.map fun value => (value, inquiry.duration) := rfl

theorem result_bind (first : Inquiry α) (next : α → Inquiry β) :
    (first >>= next).result = first.result >>= fun value => (next value).result := by
  show (bind first next).result = _
  unfold bind
  cases first.result <;> rfl

/-- What follows an inquiry may depend on how long it took. -/
theorem result_timed_bind (first : Inquiry α) (next : α × Nat → Inquiry β) :
    (first.timed >>= next).result =
      first.result >>= fun value => (next (value, first.duration)).result := by
  rw [result_bind, result_timed]
  cases first.result <;> rfl

theorem result_within (limit : Nat) (late : Failure) (inquiry : Inquiry α) :
    (inquiry.within limit late).result = inquiry.result ∨
      (inquiry.within limit late).result = .error (.failure late) := by
  unfold within
  split
  · exact .inl rfl
  · exact .inr rfl

/-- What takes no time is never late. -/
theorem within_pure (limit : Nat) (late : Failure) (value : α) :
    (Pure.pure value : Inquiry α).within limit late = Pure.pure value :=
  if_pos (show (decide (0 ≤ limit) && true) = true by simp)

/-- What ends within a limit is not late, unless a question goes out to a server just as the limit
is reached. -/
theorem within_eq_self (bounded : inquiry.duration ≤ limit)
    (sent : ∀ question ∈ inquiry.asked, question.remote = true → question.moment ≠ limit) :
    inquiry.within limit late = inquiry := by
  refine if_pos ?_
  rw [inTime, Bool.and_eq_true, decide_eq_true_eq, List.all_eq_true]
  refine ⟨bounded, fun question member => ?_⟩
  have asked := inquiry.moment_le question member
  unfold Asked.inTime
  split
  · next remote =>
      have moment := sent question member remote
      exact decide_eq_true (by omega)
  · exact decide_eq_true (by omega)

theorem duration_within_le (limit : Nat) (late : Failure) (inquiry : Inquiry α) :
    (inquiry.within limit late).duration ≤ limit := by
  unfold within
  split
  · next early =>
      rw [inTime, Bool.and_eq_true, decide_eq_true_eq] at early
      exact early.1
  · exact Nat.le_refl limit

/-- What is not late is what it would be without a limit. -/
theorem within_eq_self_of_result_eq_ok {value : α}
    (given : (inquiry.within limit late).result = .ok value) :
    inquiry.within limit late = inquiry := by
  unfold within at given ⊢
  split
  · rfl
  · next tardy =>
      rw [if_neg tardy] at given
      contradiction

theorem duration_bind_le (first : Inquiry α) {next : α → Inquiry β} (longest : Nat)
    (bounded : ∀ value, (next value).duration ≤ longest) :
    (first >>= next).duration ≤ first.duration + longest := by
  show (bind first next).duration ≤ _
  unfold bind
  split
  · exact Nat.le_add_right _ _
  · next value _ => exact Nat.add_le_add_left (bounded value) _

/-- The inquiry as it would be if nothing took any time. -/
def instant (inquiry : Inquiry α) : Inquiry α where
  asked := inquiry.asked.map fun question => { question with moment := 0 }
  result := inquiry.result

end Headroom.Inquiry
