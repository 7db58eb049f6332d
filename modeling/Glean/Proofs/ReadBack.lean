set_option autoImplicit false

/-!
# Steps that can fail

A chain of steps ends well if each of them does, and badly with the first that does not. A list is
read item by item, so it is read if each of its items is, and what was written item by item is read
back.
-/
namespace Glean

theorem bind_eq_ok_iff {ε α β : Type} (x : Except ε α) (f : α → Except ε β) (b : β) :
    (x >>= f) = .ok b ↔ ∃ a, x = .ok a ∧ f a = .ok b := by
  cases x with
  | error e => simp [bind, Except.bind]
  | ok a => simp [bind, Except.bind]

theorem bind_eq_error_iff {ε α β : Type} (x : Except ε α) (f : α → Except ε β) (e : ε) :
    (x >>= f) = .error e ↔ x = .error e ∨ ∃ a, x = .ok a ∧ f a = .error e := by
  cases x with
  | error d => simp [bind, Except.bind]
  | ok a => simp [bind, Except.bind]

theorem mapM_eq_map {α β : Type} (read : α → Option β) (found : α → β) (xs : List α)
    (h : ∀ x ∈ xs, read x = some (found x)) : xs.mapM read = some (xs.map found) := by
  induction xs with
  | nil => rfl
  | cons x xs ih =>
    rw [List.mapM_cons, h x List.mem_cons_self, ih fun y hy => h y (List.mem_cons_of_mem x hy)]
    rfl

theorem mapM_map_eq {α β : Type} (write : α → β) (read : β → Option α)
    (h : ∀ x, read (write x) = some x) (xs : List α) : (xs.map write).mapM read = some xs := by
  rw [List.mapM_map]
  have hread := mapM_eq_map (read ∘ write) id xs fun x _ => h x
  rw [List.map_id] at hread
  exact hread

end Glean
