import Glean.Markup.Fragment
import Glean.Proofs.EmbeddedScripts
import Glean.Proofs.ScriptRecords

set_option autoImplicit false

/-!
# Going through a page

The finds of a page as they are gathered one by one: an item adds what is found in it to what was
found in front of it.
-/
namespace Glean.Markup

section

variable (r : Range) (file : String) (index : Lines.Index)

def Finds.emit (found : Finds) (line : Nat) (text : List Char) : Finds :=
  if r.test (String.ofList text) then
    { found with
      records := found.records ++ [⟨file, line, .markup, String.ofList text⟩] }
  else found

def Finds.visitValue (found : Finds) (v : Value) : Finds :=
  if v.content.isEmpty then found else found.emit r file (index.lineAt v.start) v.content

def Finds.visitScript (found : Finds) (e : Embedded) : Finds :=
  if e.isBlank then found
  else
    match Script.read r e.language file (index.lineAt e.start - 1) e.content with
    | .ok records => { found with records := found.records ++ records }
    | .error _ => { found with scriptFailures := found.scriptFailures + 1 }

mutual

/-- Goes through an item, attributes first, with what was found in front of it. -/
def Item.visit : Item → Finds → Finds
  | .tag _ _ attributes children, found =>
    visitAll children ((attributes.filterMap (·.value)).foldl (·.visitValue r file index) found)
  | .text start content, found =>
    if (Text.trim content).isEmpty then found
    else found.emit r file (index.lineAt start) (Text.trim content)
  | .script start language content, found =>
    found.visitScript r file index ⟨start, language, content⟩
  | .style _, found => found
  | .comment _, found => found

def visitAll : List Item → Finds → Finds
  | [], found => found
  | item :: items, found => visitAll items (item.visit found)

end

end

def Finds.add (a b : Finds) : Finds :=
  ⟨a.records ++ b.records, a.scriptFailures + b.scriptFailures⟩

def gather (parts : List Finds) : Finds :=
  ⟨parts.flatMap (·.records), total (parts.map (·.scriptFailures))⟩

theorem Finds.add_assoc (a b c : Finds) : (a.add b).add c = a.add (b.add c) := by
  simp only [add, List.append_assoc, Nat.add_assoc]

theorem Finds.add_empty (a : Finds) : a.add {} = a := by
  simp only [add, List.append_nil, Nat.add_zero]

theorem Finds.empty_add (a : Finds) : Finds.add {} a = a := by
  simp only [add, List.nil_append, Nat.zero_add]

theorem gather_nil : gather [] = {} := rfl

theorem gather_cons (a : Finds) (parts : List Finds) : gather (a :: parts) = a.add (gather parts) :=
  rfl

theorem gather_append (xs ys : List Finds) : gather (xs ++ ys) = (gather xs).add (gather ys) := by
  induction xs with
  | nil => rw [List.nil_append, gather_nil, Finds.empty_add]
  | cons a xs ih => rw [List.cons_append, gather_cons, ih, gather_cons, Finds.add_assoc]

section

variable (r : Range) (file : String) (index : Lines.Index)

theorem Finds.emit_eq (found : Finds) (line : Nat) (text : List Char) :
    found.emit r file line text = found.add (find r file line text) := by
  unfold emit find
  dsimp only
  split
  · rfl
  · rw [Finds.add_empty]

theorem Finds.visitValue_eq (found : Finds) (v : Value) :
    found.visitValue r file index v = found.add ((Fragment.value v).finds r file index) := by
  simp only [visitValue, Fragment.finds]
  split
  · rw [Finds.add_empty]
  · rw [Finds.emit_eq]

theorem Finds.foldl_visitValue_eq (values : List Value) (found : Finds) :
    values.foldl (·.visitValue r file index) found =
      found.add (gather ((values.map Fragment.value).map (·.finds r file index))) := by
  induction values generalizing found with
  | nil => rw [List.foldl_nil, List.map_nil, List.map_nil, gather_nil, Finds.add_empty]
  | cons v values ih =>
    rw [List.foldl_cons, ih, Finds.visitValue_eq, Finds.add_assoc, List.map_cons, List.map_cons,
      gather_cons]

theorem Finds.visitScript_eq (found : Finds) (e : Embedded) :
    found.visitScript r file index e =
      found.add ((Fragment.script e.start e.language e.content).finds r file index) := by
  by_cases hb : (Text.trim e.content).isEmpty = true
  · rw [visitScript, Embedded.isBlank, if_pos hb, Fragment.finds, if_pos hb, Finds.add_empty]
  · have hread := Script.toOption_read r e.language file (index.lineAt e.start - 1) e.content
    rw [visitScript, Embedded.isBlank, if_neg hb, Fragment.finds, if_neg hb, ← hread]
    cases Script.read r e.language file (index.lineAt e.start - 1) e.content with
    | ok records => rfl
    | error fault => simp only [Except.toOption, add, List.append_nil]

mutual

theorem Item.visit_eq (found : Finds) : (item : Item) →
    item.visit r file index found =
      found.add (gather (item.fragments.map (·.finds r file index)))
  | .tag _ _ attributes children => by
    rw [Item.visit, visitAll_eq, Finds.foldl_visitValue_eq, Finds.add_assoc, ← gather_append,
      ← List.map_append, Item.fragments]
  | .text start content => by
    rw [Item.visit, Item.fragments, List.map_singleton, gather_cons, gather_nil, Finds.add_empty,
      Fragment.finds]
    split
    · rw [Finds.add_empty]
    · rw [Finds.emit_eq]
  | .script start language content => by
    rw [Item.visit, Finds.visitScript_eq, Item.fragments, List.map_singleton, gather_cons,
      gather_nil, Finds.add_empty]
  | .style _ => by rw [Item.visit, Item.fragments, List.map_nil, gather_nil, Finds.add_empty]
  | .comment _ => by rw [Item.visit, Item.fragments, List.map_nil, gather_nil, Finds.add_empty]

theorem visitAll_eq (found : Finds) : (items : List Item) →
    visitAll r file index items found =
      found.add (gather ((fragmentsOf items).map (·.finds r file index)))
  | [] => by rw [visitAll, fragmentsOf, List.map_nil, gather_nil, Finds.add_empty]
  | item :: items => by
    rw [visitAll, visitAll_eq _ items, Item.visit_eq found item, Finds.add_assoc, ← gather_append,
      ← List.map_append, fragmentsOf]

end

/-- The finds of a page are those of going through it from the front. -/
theorem finds_eq_visitAll (text : List Char) :
    finds r file text = visitAll r file (Lines.Index.ofText text) (document text) {} := by
  rw [visitAll_eq, Finds.empty_add]
  rfl

end

end Glean.Markup
