import Glean.Literals
import Glean.Proofs.ImportCalls

set_option autoImplicit false

/-!
# Where literals stand

Whatever the grammar of scripts does, every literal it passes over stands in the script at the
offset that is noted for it, is written as a literal, and ends before the next one begins.
-/
namespace Glean.Script

/-- A literal stands in a text where it is said to start. -/
def Literal.StandsIn (text : List Char) (t : Literal) : Prop :=
  ∃ before behind, text = before ++ (t.text ++ behind) ∧ t.start = byteSize before

/-- What is known of a cursor that has come some way into a text. -/
structure Cursor.Within (text : List Char) (d : Dialect) (c : Cursor) : Prop where
  dialect : c.dialect = d
  rest : ∃ before, text = before ++ c.rest ∧ c.offset = byteSize before
  literals : ∀ t ∈ c.literals, t.StandsIn text ∧ d.isLiteral t.text = true

namespace Cursor.Within

variable {text : List Char} {d : Dialect} {c : Cursor}

theorem pass (h : c.Within text d) (n : Nat) : (c.pass n).Within text d := by
  obtain ⟨before, htext, hoffset⟩ := h.rest
  refine ⟨h.dialect, ⟨before ++ c.rest.take n, ?_, ?_⟩, h.literals⟩
  · rw [List.append_assoc]
    change text = before ++ (c.rest.take n ++ c.rest.drop n)
    rw [List.take_append_drop, htext]
  · rw [byteSize_append, ← hoffset]
    rfl

theorem record (h : c.Within text d) (n : Nat) (hl : c.dialect.isLiteral (c.rest.take n) = true) :
    (c.record n).Within text d := by
  have hp := h.pass n
  refine ⟨hp.dialect, hp.rest, ?_⟩
  intro t ht
  rcases List.mem_cons.mp ht with rfl | ht
  · obtain ⟨before, htext, hoffset⟩ := h.rest
    refine ⟨⟨before, c.rest.drop n, ?_, hoffset⟩, ?_⟩
    · rw [List.take_append_drop, htext]
    · rw [← h.dialect]
      exact hl
  · exact h.literals t ht

theorem reaches {e : Cursor} (h : c.Within text d) (hr : c.Reaches e) : e.Within text d := by
  induction hr with
  | pass c n => exact h.pass n
  | record c n hl => exact h.record n hl
  | notice c ahead => exact ⟨h.dialect, h.rest, h.literals⟩
  | trans _ _ first second => exact second (first h)

end Cursor.Within

theorem standsIn_of_literals? (d : Dialect) (text : List Char) (tokens : List Literal)
    (h : literals? d text = some tokens) (t : Literal) (ht : t ∈ tokens) :
    t.StandsIn text ∧ d.isLiteral t.text = true := by
  unfold literals? at h
  obtain ⟨⟨s, c⟩, hrun, rfl⟩ := Option.map_eq_some_iff.mp h
  have start : ({ dialect := d, rest := text } : Cursor).Within text d := by
    refine ⟨rfl, ⟨[], rfl, rfl⟩, ?_⟩
    intro t ht
    contradiction
  have stop := start.reaches ((Parser.script _).reaches _ _ _ hrun)
  exact stop.literals t (List.mem_reverse.mp ht)

theorem exists_quote (text : List Char) (h : isQuoted text = true) :
    ∃ q rest, text = q :: rest ∧ isQuote q = true := by
  cases text with
  | nil => contradiction
  | cons q rest =>
    rw [isQuoted, Bool.and_eq_true] at h
    exact ⟨q, rest, rfl, h.1⟩

theorem isFiller_of_isQuote (q : Char) (h : isQuote q = true) :
    ImportCall.isFiller q = false := by
  simp only [isQuote, Bool.or_eq_true, decide_eq_true_eq] at h
  rcases h with rfl | rfl <;> rfl

theorem exists_first (d : Dialect) (text : List Char) (h : d.isLiteral text = true) :
    ∃ q rest, text = q :: rest ∧ ImportCall.isFiller q = false := by
  rw [Dialect.isLiteral, Bool.or_eq_true] at h
  rcases h with h | h
  · obtain ⟨q, rest, htext, hq⟩ := exists_quote text h
    exact ⟨q, rest, htext, isFiller_of_isQuote q hq⟩
  · rw [Bool.and_eq_true, decide_eq_true_eq] at h
    exact ⟨'s', "tring".toList, h.2, rfl⟩

/-- The literals of a cursor, the last one in front, are disjoint and lie behind it. -/
structure Cursor.Apart (c : Cursor) : Prop where
  passed : ∀ t ∈ c.literals, t.start + byteSize t.text ≤ c.offset
  apart : c.literals.Pairwise fun u t => t.start + byteSize t.text ≤ u.start

namespace Cursor.Apart

variable {c : Cursor}

theorem pass (h : c.Apart) (n : Nat) : (c.pass n).Apart := by
  refine ⟨?_, h.apart⟩
  intro t ht
  exact Nat.le_trans (h.passed t ht) (Nat.le_add_right _ _)

theorem record (h : c.Apart) (n : Nat) : (c.record n).Apart := by
  refine ⟨?_, List.pairwise_cons.mpr ⟨h.passed, h.apart⟩⟩
  intro t ht
  rcases List.mem_cons.mp ht with rfl | ht
  · exact Nat.le_refl _
  · exact (h.pass n).passed t ht

theorem reaches {e : Cursor} (h : c.Apart) (hr : c.Reaches e) : e.Apart := by
  induction hr with
  | pass c n => exact h.pass n
  | record c n _ => exact h.record n
  | notice c ahead => exact ⟨h.passed, h.apart⟩
  | trans _ _ first second => exact second (first h)

end Cursor.Apart

theorem apart_of_literals? (d : Dialect) (text : List Char) (tokens : List Literal)
    (h : literals? d text = some tokens) :
    tokens.Pairwise fun t u => t.start + byteSize t.text ≤ u.start := by
  unfold literals? at h
  obtain ⟨⟨s, c⟩, hrun, rfl⟩ := Option.map_eq_some_iff.mp h
  have start : ({ dialect := d, rest := text } : Cursor).Apart := ⟨nofun, .nil⟩
  have stop := start.reaches ((Parser.script _).reaches _ _ _ hrun)
  rw [List.pairwise_reverse]
  exact stop.apart

end Glean.Script

namespace Glean.Language

theorem standsIn_of_literals? (l : Language) (text : List Char) (tokens : List Script.Literal)
    (h : l.literals? text = some tokens) (t : Script.Literal) (ht : t ∈ tokens) :
    t.StandsIn text ∧ l.dialect.isLiteral t.text = true := by
  unfold literals? at h
  split at h
  · split at h
    · rw [Option.some.injEq] at h
      rw [← h] at ht
      contradiction
    · contradiction
  · exact Script.standsIn_of_literals? l.dialect text tokens h t ht

theorem apart_of_literals? (l : Language) (text : List Char)
    (tokens : List Script.Literal) (h : l.literals? text = some tokens) :
    tokens.Pairwise fun t u => t.start + byteSize t.text ≤ u.start := by
  unfold literals? at h
  split at h
  · split at h
    · cases h
      exact .nil
    · contradiction
  · exact Script.apart_of_literals? l.dialect text tokens h

end Glean.Language
