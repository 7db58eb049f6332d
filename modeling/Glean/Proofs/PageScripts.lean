import Glean.Proofs.PageWalk

set_option autoImplicit false

/-!
# Scripts and the rest of a page

A script inside a page gives what it gives by itself, and the page gives what it would give without
its scripts.
-/
namespace Glean.Markup

mutual

/-- An item without the scripts in it. -/
def Item.withoutScripts : Item → List Item
  | .tag name start attributes children => [.tag name start attributes (withoutScripts children)]
  | .text start content => [.text start content]
  | .script _ _ _ => []
  | .style start => [.style start]
  | .comment start => [.comment start]

def withoutScripts : List Item → List Item
  | [] => []
  | item :: items => item.withoutScripts ++ withoutScripts items

end

def Fragment.embedded? : Fragment → Option Embedded
  | .value _ => none
  | .text _ _ => none
  | .script start language content => some ⟨start, language, content⟩

theorem fragmentsOf_append (xs ys : List Item) :
    fragmentsOf (xs ++ ys) = fragmentsOf xs ++ fragmentsOf ys := by
  induction xs with
  | nil => rfl
  | cons item xs ih => rw [List.cons_append, fragmentsOf, ih, fragmentsOf, List.append_assoc]

theorem filterMap_embedded?_value (values : List Value) :
    (values.map Fragment.value).filterMap Fragment.embedded? = [] := by
  rw [List.filterMap_map, List.filterMap_eq_nil_iff]
  intro v hv
  rfl

theorem filter_embedded?_value (values : List Value) :
    (values.map Fragment.value).filter (·.embedded?.isNone) = values.map Fragment.value := by
  rw [List.filter_eq_self]
  intro f hf
  obtain ⟨v, -, rfl⟩ := List.mem_map.mp hf
  rfl

mutual

theorem Item.scripts_eq : (item : Item) →
    item.scripts = item.fragments.filterMap Fragment.embedded?
  | .tag _ _ attributes children => by
    rw [Item.scripts, Item.fragments, List.filterMap_append, filterMap_embedded?_value,
      List.nil_append, scriptsOf_eq]
  | .text _ _ => rfl
  | .script _ _ _ => rfl
  | .style _ => rfl
  | .comment _ => rfl

theorem scriptsOf_eq : (items : List Item) →
    scriptsOf items = (fragmentsOf items).filterMap Fragment.embedded?
  | [] => rfl
  | item :: items => by
    rw [scriptsOf, fragmentsOf, List.filterMap_append, Item.scripts_eq item, scriptsOf_eq items]

end

mutual

theorem Item.fragmentsOf_withoutScripts : (item : Item) →
    fragmentsOf item.withoutScripts = item.fragments.filter (·.embedded?.isNone)
  | .tag name start attributes children => by
    rw [Item.withoutScripts, fragmentsOf, fragmentsOf, List.append_nil, Item.fragments,
      Item.fragments, List.filter_append, filter_embedded?_value, Markup.fragmentsOf_withoutScripts]
  | .text _ _ => rfl
  | .script _ _ _ => rfl
  | .style _ => rfl
  | .comment _ => rfl

theorem fragmentsOf_withoutScripts : (items : List Item) →
    fragmentsOf (withoutScripts items) = (fragmentsOf items).filter (·.embedded?.isNone)
  | [] => rfl
  | item :: items => by
    rw [withoutScripts, fragmentsOf_append, fragmentsOf, List.filter_append,
      Item.fragmentsOf_withoutScripts item, fragmentsOf_withoutScripts items]

end

/-- What a script of a page comes to when it is read by itself. -/
def Embedded.read (r : Range) (file : String) (text : List Char) (e : Embedded) :
    Except Failure (List Record) :=
  Script.read r e.language file (Lines.lineAt text e.start - 1) e.content

section

variable (r : Range) (file : String) (text : List Char)

theorem Fragment.finds_of_script (f : Fragment) (e : Embedded) (h : f.embedded? = some e) :
    f.finds r file (Lines.Index.ofText text) =
      if e.isBlank then {}
      else ⟨(e.read r file text).toOption.getD [], if (e.read r file text).isOk then 0 else 1⟩ := by
  cases f with
  | value v => contradiction
  | text start content => contradiction
  | script start language content =>
    have he : ⟨start, language, content⟩ = e := Option.some.inj h
    subst he
    by_cases hb : (Text.trim content).isEmpty = true
    · rw [finds, if_pos hb, Embedded.isBlank, if_pos hb]
    · rw [finds, if_neg hb, Embedded.isBlank, if_neg hb, Embedded.read, Script.toOption_read,
        Script.isOk_read, Lines.Index.lineAt_ofText]
      cases Script.records? r language file (Lines.lineAt text start - 1) content with
      | some records => rfl
      | none => rfl

theorem source_of_mem_find (line : Nat) (content : List Char) (x : Record)
    (hx : x ∈ (find r file line content).records) : x.source = .markup := by
  unfold find at hx
  dsimp only at hx
  split at hx
  · rw [List.mem_singleton.mp hx]
  · contradiction

theorem scriptFailures_find (line : Nat) (content : List Char) :
    (find r file line content).scriptFailures = 0 := by
  unfold find
  dsimp only
  split <;> rfl

theorem Fragment.finds_of_not_script (f : Fragment) (index : Lines.Index)
    (h : f.embedded? = none) :
    (f.finds r file index).scriptFailures = 0 ∧
      ∀ x ∈ (f.finds r file index).records, x.source = .markup := by
  cases f with
  | value v =>
    simp only [finds]
    split
    · exact ⟨rfl, fun x hx => by contradiction⟩
    · exact ⟨scriptFailures_find .., fun x hx => source_of_mem_find _ _ _ _ x hx⟩
  | text start content =>
    simp only [finds]
    split
    · exact ⟨rfl, fun x hx => by contradiction⟩
    · exact ⟨scriptFailures_find .., fun x hx => source_of_mem_find _ _ _ _ x hx⟩
  | script start language content => contradiction

theorem Embedded.source_of_mem_read (e : Embedded) (x : Record)
    (hx : x ∈ (e.read r file text).toOption.getD []) : x.source = .script := by
  rw [read, Script.toOption_read] at hx
  cases h : Script.records? r e.language file (Lines.lineAt text e.start - 1) e.content with
  | none =>
    rw [h] at hx
    contradiction
  | some records =>
    rw [h] at hx
    exact Script.source_of_mem_records? _ _ _ _ _ records h x hx

def gathered (fragments : List Fragment) : Finds :=
  gather (fragments.map (·.finds r file (Lines.Index.ofText text)))

theorem gathered_cons (f : Fragment) (fragments : List Fragment) :
    gathered r file text (f :: fragments) =
      (f.finds r file (Lines.Index.ofText text)).add (gathered r file text fragments) := by
  rw [gathered, List.map_cons, gather_cons, gathered]

def readIn (fragments : List Fragment) : List Embedded :=
  (fragments.filterMap Fragment.embedded?).filter (!·.isBlank)

theorem readIn_of_script (f : Fragment) (fragments : List Fragment) (e : Embedded)
    (h : f.embedded? = some e) :
    readIn (f :: fragments) = if e.isBlank then readIn fragments else e :: readIn fragments := by
  rw [readIn, List.filterMap_cons_some h, List.filter_cons, readIn]
  cases e.isBlank <;> rfl

theorem readIn_of_not_script (f : Fragment) (fragments : List Fragment)
    (h : f.embedded? = none) : readIn (f :: fragments) = readIn fragments := by
  rw [readIn, List.filterMap_cons_none h, readIn]

theorem filter_script_gathered (fragments : List Fragment) :
    (gathered r file text fragments).records.filter (·.source = .script) =
      (readIn fragments).flatMap fun e => (e.read r file text).toOption.getD [] := by
  induction fragments with
  | nil => rfl
  | cons f fragments ih =>
    rw [gathered_cons, Finds.add, List.filter_append, ih]
    -- Of a script all records are kept, and of anything else none.
    cases h : f.embedded? with
    | some e =>
      rw [readIn_of_script f fragments e h, f.finds_of_script r file text e h]
      by_cases hb : e.isBlank = true
      · rw [if_pos hb, if_pos hb, List.filter_nil, List.nil_append]
      · rw [if_neg hb, if_neg hb, List.flatMap_cons, List.filter_eq_self.mpr]
        intro x hx
        rw [decide_eq_true_eq]
        exact e.source_of_mem_read r file text x hx
    | none =>
      rw [readIn_of_not_script f fragments h, List.filter_eq_nil_iff.mpr, List.nil_append]
      intro x hx
      rw [(f.finds_of_not_script r file _ h).2 x hx]
      decide

theorem scriptFailures_gathered (fragments : List Fragment) :
    (gathered r file text fragments).scriptFailures =
      (readIn fragments).countP fun e => !(e.read r file text).isOk := by
  induction fragments with
  | nil => rfl
  | cons f fragments ih =>
    rw [gathered_cons, Finds.add, ih]
    cases h : f.embedded? with
    | some e =>
      rw [readIn_of_script f fragments e h, f.finds_of_script r file text e h]
      by_cases hb : e.isBlank = true
      · rw [if_pos hb, if_pos hb, Nat.zero_add]
      · rw [if_neg hb, if_neg hb, List.countP_cons, Nat.add_comm]
        cases (e.read r file text).isOk <;> rfl
    | none =>
      rw [readIn_of_not_script f fragments h, (f.finds_of_not_script r file _ h).1, Nat.zero_add]

theorem filter_markup_gathered (fragments : List Fragment) :
    (gathered r file text fragments).records.filter (·.source = .markup) =
      (gathered r file text (fragments.filter (·.embedded?.isNone))).records := by
  induction fragments with
  | nil => rfl
  | cons f fragments ih =>
    rw [gathered_cons, Finds.add, List.filter_append, ih]
    cases h : f.embedded? with
    | some e =>
      rw [List.filter_cons_of_neg (by rw [h]; exact Bool.false_ne_true),
        List.filter_eq_nil_iff.mpr, List.nil_append]
      intro x hx
      rw [f.finds_of_script r file text e h] at hx
      split at hx
      · contradiction
      · rw [e.source_of_mem_read r file text x hx]
        decide
    | none =>
      rw [List.filter_cons_of_pos (by rw [h]; rfl), gathered_cons, Finds.add,
        List.filter_eq_self.mpr]
      intro x hx
      rw [decide_eq_true_eq]
      exact (f.finds_of_not_script r file _ h).2 x hx

/-- The scripts of a page and the rest of it do not disturb each other: each kind of records is what
its part of the page gives, and going through an item only adds to what was found before. -/
theorem finds_apart :
    let scripts := (scriptsOf (document text)).filter (!·.isBlank)
    let index := Lines.Index.ofText text
    finds r file text = visitAll r file index (document text) {} ∧
    (finds r file text).records.filter (·.source = .script) =
      scripts.flatMap (fun e => (e.read r file text).toOption.getD []) ∧
    (finds r file text).scriptFailures = scripts.countP (fun e => !(e.read r file text).isOk) ∧
    (finds r file text).records.filter (·.source = .markup) =
      (visitAll r file index (withoutScripts (document text)) {}).records ∧
    (∀ item : Item, ∃ more, ∀ found, item.visit r file index found = found.add more) ∧
    ∀ (e : Embedded) (found : Finds), e.isBlank = false → (e.read r file text).isOk = false →
      (Item.script e.start e.language e.content).visit r file index found =
        ⟨found.records, found.scriptFailures + 1⟩ := by
  intro scripts index
  have hfinds : finds r file text = gathered r file text (fragmentsOf (document text)) := rfl
  have hscripts : scripts = readIn (fragmentsOf (document text)) := by
    rw [readIn, ← scriptsOf_eq]
  refine ⟨finds_eq_visitAll r file text, ?_, ?_, ?_, ?_, ?_⟩
  · rw [hfinds, hscripts, filter_script_gathered]
  · rw [hfinds, hscripts, scriptFailures_gathered]
  · rw [hfinds, filter_markup_gathered, visitAll_eq, Finds.empty_add, fragmentsOf_withoutScripts,
      gathered]
  · intro item
    exact ⟨_, fun found => Item.visit_eq r file index found item⟩
  · intro e found hb hread
    rw [Item.visit_eq, Item.fragments, List.map_singleton, gather_cons, gather_nil,
      Finds.add_empty, Fragment.finds_of_script r file text _ e rfl, hb, if_neg Bool.false_ne_true,
      hread, if_neg Bool.false_ne_true, Finds.add]
    cases h : e.read r file text with
    | ok records =>
      rw [h] at hread
      contradiction
    | error fault => rw [Except.toOption, Option.getD_none, List.append_nil]

end

theorem visit_broken_script :
    let page := "中<script>(</script>".toList
    let found : Finds := ⟨[⟨"a", 1, .markup, "中"⟩], 0⟩
    (Item.script 11 .javascript "(".toList).visit ⟨"", .set (.one '中')⟩ "a"
        (Lines.Index.ofText page) found = ⟨found.records, 1⟩ := by
  intro page found
  have happly := (finds_apart ⟨"", .set (.one '中')⟩ "a" page).2.2.2.2.2
  exact happly ⟨11, .javascript, "(".toList⟩ found (by decide) (by decide +kernel)

end Glean.Markup
