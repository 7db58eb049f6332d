import Glean.Pattern.Expr

set_option autoImplicit false

/-!
# Where a set of characters occurs

A pattern that is one set of characters occurs in a text if a member of the set stands in it.
-/
namespace Glean.Pattern

theorem advance_all (s : CharSet) (text : List Char) :
    advance s text (List.replicate (text.length + 1) true) = text.map s.contains := by
  induction text with
  | nil => rfl
  | cons c text ih =>
    rw [List.length_cons, List.replicate_succ, advance, ih, Bool.true_and, List.map_cons]

theorem occursIn_set (s : CharSet) (text : List Char) :
    (Expr.set s).occursIn text = text.any s.contains := by
  rw [Expr.occursIn, Expr.reach, advance_all]
  simp [List.any_map]

end Glean.Pattern
