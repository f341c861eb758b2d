/-!
# Computations that may fail

What a computation in several parts comes to: it succeeds exactly if every part does,
each with what the parts before it have given.
-/

namespace SqlProbe

section

variable {ε α β : Type}

theorem ok_bind (a : α) (f : α → Except ε β) : (.ok a >>= f) = f a := rfl

/-- A computation in two parts succeeds exactly if both do. -/
theorem bind_eq_ok_iff {x : Except ε α} {f : α → Except ε β} {y : β} :
    x.bind f = .ok y ↔ ∃ z, x = .ok z ∧ f z = .ok y := by
  cases x with
  | error e => exact iff_of_false (fun h => nomatch h) (fun ⟨_, h, _⟩ => nomatch h)
  | ok z => simp only [Except.bind, Except.ok.injEq, exists_eq_left']

theorem map_eq_ok_iff {x : Except ε α} {f : α → β} {y : β} :
    x.map f = .ok y ↔ ∃ z, x = .ok z ∧ y = f z := by
  cases x with
  | error e => exact iff_of_false (fun h => nomatch h) (fun ⟨_, h, _⟩ => nomatch h)
  | ok z => simp only [Except.map, Except.ok.injEq, exists_eq_left', eq_comm]

end

end SqlProbe
