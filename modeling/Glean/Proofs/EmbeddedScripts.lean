import Glean.Markup.Document
import Glean.Proofs.Lines

set_option autoImplicit false

/-!
# Scripts inside a page

The scripts of a page in the order in which they stand, at any depth. The body of each is the part
of the page that begins at its offset.
-/
namespace Glean.Markup

/-- A script inside a page, with the offset of its first byte. -/
structure Embedded where
  start : Nat
  language : Language
  content : List Char
  deriving DecidableEq, Repr

def Embedded.isBlank (e : Embedded) : Bool := (Text.trim e.content).isEmpty

mutual

def Item.scripts : Item → List Embedded
  | .tag _ _ _ children => scriptsOf children
  | .text _ _ => []
  | .script start language content => [⟨start, language, content⟩]
  | .style _ => []
  | .comment _ => []

def scriptsOf : List Item → List Embedded
  | [] => []
  | item :: items => item.scripts ++ scriptsOf items

end

theorem scriptsOf_append (xs ys : List Item) :
    scriptsOf (xs ++ ys) = scriptsOf xs ++ scriptsOf ys := by
  induction xs with
  | nil => rfl
  | cons item xs ih => simp only [List.cons_append, scriptsOf, ih, List.append_assoc]

namespace Page

theorem sums_getD (n i : Nat) (text : List Char) (h : i ≤ text.length) :
    (sums Char.utf8Size n text).getD i 0 = n + byteSize (text.take i) := by
  induction text generalizing n i with
  | nil =>
    have hi : i = 0 := Nat.le_zero.mp h
    rw [hi]
    rfl
  | cons c text ih =>
    cases i with
    | zero => rfl
    | succ i =>
      have hi : i ≤ text.length := Nat.le_of_succ_le_succ h
      rw [sums, List.getD_cons_succ, ih _ _ hi, List.take_succ_cons, byteSize_cons]
      omega

theorem byteAt_ofText (text : List Char) (i : Nat) (h : i ≤ text.length) :
    (ofText text).byteAt i = byteSize (text.take i) := by
  have hsums := sums_getD 0 i text h
  rw [Nat.zero_add] at hsums
  rw [← hsums]
  change (sums Char.utf8Size 0 text).toArray.getD i 0 = _
  simp [Array.getD_eq_getD_getElem?, List.getD_eq_getElem?_getD]

theorem text_ofText (text : List Char) (start stop : Nat) :
    (ofText text).text start stop = (text.take stop).drop start := by
  change (text.toArray.extract start stop).toList = _
  simp [List.drop_take]

theorem exists_stretch (text : List Char) (start stop : Nat)
    (h : (ofText text).text start stop ≠ []) :
    ∃ before behind, text = before ++ ((ofText text).text start stop ++ behind) ∧
      (ofText text).byteAt start = byteSize before := by
  rw [text_ofText] at h ⊢
  have hstart : start < (text.take stop).length := by
    apply Nat.lt_of_not_le
    intro hle
    exact h (List.drop_eq_nil_of_le hle)
  have hlen : start < stop ∧ start < text.length := by
    rw [List.length_take] at hstart
    omega
  refine ⟨text.take start, text.drop stop, ?_, byteAt_ofText text start (by omega)⟩
  have hfront : (text.take stop).take start = text.take start := by
    rw [List.take_take, Nat.min_eq_left (by omega)]
  rw [← List.append_assoc, ← hfront, List.take_append_drop, List.take_append_drop]

theorem scriptsOf_run (s : Page) (stop : Nat) (run : Option Nat) :
    scriptsOf (s.run stop run) = [] := by
  cases run <;> rfl

end Page

mutual

theorem Node.exists_stretch (s : Page) (last : Nat) (e : Embedded) : (n : Node) →
    e ∈ scriptsOf (n.items s last) →
    ∃ start stop, e.start = s.byteAt start ∧ e.content = s.text start stop
  | ⟨kind, start, stop, children⟩, h => by
    unfold Node.items at h
    dsimp only at h
    split at h
    · rw [scriptsOf, Item.scripts, scriptsOf, List.append_nil] at h
      exact exists_stretch s start none e children h
    · rw [scriptsOf, scriptsOf, List.append_nil, Node.script, Item.scripts,
        List.mem_singleton] at h
      exact ⟨_, _, congrArg Embedded.start h, congrArg Embedded.content h⟩
    · contradiction
    · contradiction
    · exact exists_stretch s last none e children h
    · contradiction

theorem exists_stretch (s : Page) (last : Nat) (run : Option Nat) (e : Embedded) :
    (nodes : List Node) → e ∈ scriptsOf (items s last run nodes) →
    ∃ start stop, e.start = s.byteAt start ∧ e.content = s.text start stop
  | [], h => by
    rw [items, Page.scriptsOf_run] at h
    contradiction
  | n :: rest, h => by
    rw [items] at h
    split at h
    · exact exists_stretch s n.stop _ e rest h
    · rw [scriptsOf_append, scriptsOf_append, Page.scriptsOf_run, List.nil_append,
        List.mem_append] at h
      rcases h with h | h
      · exact Node.exists_stretch s last e n h
      · exact exists_stretch s n.stop none e rest h

end

/-- The body of a script stands in the page at the script's offset. -/
theorem exists_body (text : List Char) (e : Embedded) (h : e ∈ scriptsOf (document text))
    (hb : e.isBlank = false) :
    ∃ before behind, text = before ++ (e.content ++ behind) ∧ e.start = byteSize before := by
  obtain ⟨start, stop, hstart, hcontent⟩ := exists_stretch _ _ _ e _ h
  have hne : e.content ≠ [] := by
    intro hn
    rw [Embedded.isBlank, hn] at hb
    exact absurd hb (by decide)
  rw [hcontent] at hne
  obtain ⟨before, behind, htext, hbefore⟩ := Page.exists_stretch text start stop hne
  exact ⟨before, behind, hcontent ▸ htext, hstart.trans hbefore⟩

end Glean.Markup
