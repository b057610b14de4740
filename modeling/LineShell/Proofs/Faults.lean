/-!
# Computations that may end in a fault

When a chain of steps succeeds, and what a list of them comes to when only one fault is possible.
-/

namespace LineShell

variable {ε α β : Type}

theorem bind_eq_ok {x : Except ε α} {f : α → Except ε β} {b : β} :
    x >>= f = .ok b ↔ ∃ a, x = .ok a ∧ f a = .ok b := by
  cases x <;> simp [bind, Except.bind]

theorem bind_eq_error {x : Except ε α} {f : α → Except ε β} {e : ε} :
    x >>= f = .error e ↔ x = .error e ∨ ∃ a, x = .ok a ∧ f a = .error e := by
  cases x <;> simp [bind, Except.bind]

theorem mapM_of_ok {step : α → Except ε β} {value : α → β} {xs : List α}
    (h : ∀ x ∈ xs, step x = .ok (value x)) : xs.mapM step = .ok (xs.map value) := by
  induction xs with
  | nil => rfl
  | cons x xs ih =>
    rw [List.mapM_cons, h x List.mem_cons_self, ih fun y hy => h y (List.mem_cons_of_mem x hy)]
    rfl

/-- Where a step can only fail in one way, the list fails so as soon as one of its members does. -/
theorem mapM_eq_ite {step : α → Except ε β} {value : α → β} {Fails : α → Prop}
    [DecidablePred Fails] {fault : ε} {xs : List α}
    (h : ∀ x ∈ xs, step x = if Fails x then .error fault else .ok (value x)) :
    xs.mapM step = if ∃ x ∈ xs, Fails x then .error fault else .ok (xs.map value) := by
  induction xs with
  | nil => rfl
  | cons x xs ih =>
    rw [List.mapM_cons, h x List.mem_cons_self, ih fun y hy => h y (List.mem_cons_of_mem x hy)]
    by_cases hx : Fails x
    · have hsome : ∃ y ∈ x :: xs, Fails y := ⟨x, List.mem_cons_self, hx⟩
      rw [if_pos hx, if_pos hsome]
      rfl
    · have hsome : (∃ y ∈ x :: xs, Fails y) ↔ ∃ y ∈ xs, Fails y := by simp [hx]
      rw [if_neg hx]
      simp only [hsome]
      split <;> rfl

end LineShell
