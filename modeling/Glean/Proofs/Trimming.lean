import Glean.Text.Blank
import Mathlib.Data.List.Basic
import Mathlib.Data.List.TakeWhile

set_option autoImplicit false

/-!
# What trimming leaves

White space is taken from both ends of a text until there is none at either, and nothing else is
taken. A text that has none there stays as it is.
-/
namespace Glean.Text

/-- No white space is at either end. -/
structure Trimmed (text : List Char) : Prop where
  front : ∀ c ∈ text.head?, isBlank c = false
  back : ∀ c ∈ text.getLast?, isBlank c = false

theorem isBlank_head (text : List Char) (c : Char) (h : c ∈ (text.dropWhile isBlank).head?) :
    isBlank c = false := by
  have hnot := List.head?_dropWhile_not isBlank text
  rw [Option.mem_def.mp h] at hnot
  simpa using hnot

theorem exists_trimEnd (text : List Char) : ∃ blank, text = trimEnd text ++ blank := by
  refine ⟨(text.reverse.takeWhile isBlank).reverse, ?_⟩
  rw [trimEnd, ← List.reverse_append, List.takeWhile_append_dropWhile, List.reverse_reverse]

theorem exists_trim (text : List Char) :
    ∃ blank rest, AllBlank blank ∧ text = blank ++ (trim text ++ rest) := by
  obtain ⟨rest, hrest⟩ := exists_trimEnd (trimStart text)
  refine ⟨text.takeWhile isBlank, rest, ?_, ?_⟩
  · intro c hc
    exact List.mem_takeWhile_imp hc
  · rw [trim, ← hrest, takeWhile_append_trimStart]

theorem trimmed_trim (text : List Char) : Trimmed (trim text) := by
  refine ⟨?_, ?_⟩
  · intro c hc
    obtain ⟨rest, hrest⟩ := exists_trimEnd (trimStart text)
    apply isBlank_head text c
    change c ∈ (trimStart text).head?
    rw [hrest]
    exact List.mem_head?_append_of_mem_head? hc
  · intro c hc
    rw [trim, trimEnd, List.getLast?_reverse] at hc
    exact isBlank_head _ c hc

theorem dropWhile_isBlank_eq_self (text : List Char) (h : ∀ c ∈ text.head?, isBlank c = false) :
    text.dropWhile isBlank = text := by
  cases text with
  | nil => rfl
  | cons c text => exact List.dropWhile_cons_of_neg (by rw [h c rfl]; exact Bool.false_ne_true)

theorem Trimmed.trim_eq {text : List Char} (h : Trimmed text) : trim text = text := by
  have hback : text.reverse.dropWhile isBlank = text.reverse :=
    dropWhile_isBlank_eq_self _ fun c hc => h.back c (List.head?_reverse ▸ hc)
  rw [trim, trimStart, dropWhile_isBlank_eq_self text h.front, trimEnd, hback, List.reverse_reverse]

theorem trim_trim (text : List Char) : trim (trim text) = trim text := (trimmed_trim text).trim_eq

theorem dropWhile_eq_nil_of_allBlank (text : List Char) (h : AllBlank (text.dropWhile isBlank)) :
    text.dropWhile isBlank = [] := by
  apply Classical.byContradiction
  intro hne
  have hfirst := List.head_dropWhile_not isBlank hne
  rw [h _ (List.head_mem hne)] at hfirst
  contradiction

theorem trim_eq_nil_iff (text : List Char) : trim text = [] ↔ AllBlank text := by
  rw [trim, trimEnd_eq_nil_iff]
  constructor
  · intro h
    rw [← trimStart_eq_nil_iff]
    exact dropWhile_eq_nil_of_allBlank text h
  · intro h
    rw [(trimStart_eq_nil_iff text).mpr h]
    intro c hc
    contradiction

end Glean.Text
