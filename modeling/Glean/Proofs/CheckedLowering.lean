import Glean.Proofs.FragmentOrder
import Glean.Proofs.ReadBack
import Glean.Proofs.TextRuns

set_option autoImplicit false

/-!
# Reading with checks

A page is read by cutting stretches out of it, and a stretch has to end where it begins or behind
and inside the page. Here every cut is checked, and reading fails where one is not as it should be.
It never does.
-/
namespace Glean.Markup

/-- The text between two places, if the second is not in front of the first and not behind the
end. -/
def Page.cut? (s : Page) (start stop : Nat) : Option (List Char) :=
  if start ≤ stop ∧ stop ≤ s.size then some (s.text start stop) else none

theorem Page.cut?_eq (s : Page) (start stop : Nat) (h : start ≤ stop) (hs : stop ≤ s.size) :
    s.cut? start stop = some (s.text start stop) := if_pos ⟨h, hs⟩

def Page.run? (s : Page) (stop : Nat) : Option Nat → Option (List Item)
  | some start => (s.cut? start stop).map fun content => [.text (s.byteAt start) content]
  | none => some []

namespace Node

def cut? (s : Page) (n : Node) : Option (List Char) := s.cut? n.start n.stop

def textOf? (s : Page) (n : Node) (kind : Kind) : Option (List Char) :=
  match n.child? kind with
  | some w => w.cut? s
  | none => some []

def checkedValue? (s : Page) (n : Node) : Option (Option Value) :=
  match (n.child? .attributeValue).or
    ((n.child? .quotedValue).bind (·.child? .attributeValue)) with
  | some w => (w.cut? s).map fun content => some ⟨content, s.byteAt w.start⟩
  | none => some none

def attribute? (s : Page) (n : Node) : Option Attribute := do
  let name ← n.textOf? s .attributeName
  let value ← n.checkedValue? s
  return ⟨name, value⟩

def attributes? (s : Page) (n : Node) : Option (List Attribute) :=
  (n.children.filter (·.kind = .attr)).mapM (attribute? s)

/-- What is read of an opening tag that may be missing. -/
def ofOpening? {α : Type} (n : Node) (missing : α) (read : Node → Option α) : Option α :=
  match n.opening? with
  | some tag => read tag
  | none => some missing

def script? (s : Page) (n : Node) : Option Item := do
  let attributes ← n.ofOpening? [] (attributes? s)
  let lang := attributes.find? fun a => Language.fold (String.ofList a.name) = "lang"
  let start := (n.opening?.map (·.stop)).getD n.start
  let stop := max start (((n.child? .endTag).map (·.start)).getD n.stop)
  let content ← s.cut? start stop
  return .script (s.byteAt start)
    (.ofAttribute ((lang.bind (·.value)).map fun v => String.ofList v.content)) content

end Node

mutual

def Node.items? (s : Page) (last : Nat) : Node → Option (List Item)
  | ⟨kind, start, stop, children⟩ =>
    let n : Node := ⟨kind, start, stop, children⟩
    match kind with
    | .element => do
      let name ← n.ofOpening? [] (·.textOf? s .tagName)
      let attributes ← n.ofOpening? [] (·.attributes? s)
      let inside ← items? s start none children
      return [.tag name (s.byteAt start) attributes inside]
    | .scriptElement => (n.script? s).map ([·])
    | .styleElement => some [.style (s.byteAt start)]
    | .comment => some [.comment (s.byteAt start)]
    | .error => items? s last none children
    | _ => some []

/-- The items of some siblings, if every stretch of text that is cut out for them is one. -/
def items? (s : Page) (last : Nat) (run : Option Nat) : List Node → Option (List Item)
  | [] => s.run? last run
  | n :: rest =>
    if n.kind = .text ∨ n.kind = .entity then items? s n.stop (run.or (some last)) rest
    else do
      let front ← s.run? last run
      let inside ← n.items? s last
      let behind ← items? s n.stop none rest
      return front ++ inside ++ behind

end

section

variable (s : Page)

theorem Page.run?_eq (run : Option Nat) (stop : Nat)
    (hrun : ∀ start, run = some start → start ≤ stop) (hs : stop ≤ s.size) :
    s.run? stop run = some (s.run stop run) := by
  cases run with
  | none => rfl
  | some start =>
    rw [run?, s.cut?_eq start stop (hrun start rfl) hs]
    rfl

namespace Node

variable (n : Node) (lo hi : Nat) (h : n.Placed lo hi) (hs : hi ≤ s.size)

include h hs

theorem cut?_eq : n.cut? s = some (n.text s) := by
  have hbounds := h.bounds
  exact s.cut?_eq n.start n.stop hbounds.2.1 (by omega)

theorem textOf?_eq (kind : Kind) : n.textOf? s kind = some (n.textOf s kind) := by
  unfold textOf? textOf
  cases hw : n.child? kind with
  | none => rfl
  | some w =>
    have hbounds := h.bounds
    exact w.cut?_eq s _ _ (n.child_placed w kind lo hi h hw) (by omega)

theorem checkedValue?_eq : n.checkedValue? s = some (n.value? s) := by
  unfold checkedValue? value?
  dsimp only
  cases hw : (n.child? .attributeValue).or
      ((n.child? .quotedValue).bind (·.child? .attributeValue)) with
  | none => rfl
  | some w =>
    have hbounds := h.bounds
    have hplaced := n.valueNode_placed w lo hi h hw
    dsimp only
    rw [w.cut?_eq s _ _ hplaced (by omega)]
    rfl

theorem attribute?_eq : n.attribute? s = some ⟨n.textOf s .attributeName, n.value? s⟩ := by
  rw [attribute?, n.textOf?_eq s lo hi h hs, n.checkedValue?_eq s lo hi h hs]
  rfl

theorem attributes?_eq : n.attributes? s = some (n.attributes s) := by
  have hbounds := h.bounds
  refine mapM_eq_map _ _ _ ?_
  intro a ha
  have hplaced := h.children.of_mem a (List.mem_of_mem_filter ha)
  exact a.attribute?_eq s _ _ hplaced (by omega)

omit hs in
theorem ofOpening?_eq {α : Type} (missing : α) (read : Node → Option α) (found : Node → α)
    (hread : ∀ tag : Node, tag.Placed n.start n.stop → read tag = some (found tag)) :
    n.ofOpening? missing read = some ((n.opening?.map found).getD missing) := by
  unfold ofOpening?
  cases htag : n.opening? with
  | none => rfl
  | some tag => exact hread tag (n.opening_placed tag lo hi h htag)

theorem openingAttributes?_eq : n.ofOpening? [] (attributes? s) =
    some ((n.opening?.map (·.attributes s)).getD []) := by
  have hbounds := h.bounds
  refine n.ofOpening?_eq lo hi h [] _ _ ?_
  intro tag htag
  exact tag.attributes?_eq s _ _ htag (by omega)

theorem script?_eq : n.script? s = some (n.script s) := by
  have hbounds := h.bounds
  obtain ⟨-, hstop⟩ := n.script_placed lo hi h
  rw [script?, n.openingAttributes?_eq s lo hi h hs]
  dsimp only [Option.bind_eq_bind]
  rw [Option.bind_some, s.cut?_eq _ _ (Nat.le_max_left _ _) (by omega)]
  rfl

end Node

mutual

theorem Node.items?_eq (last lo hi : Nat) : (n : Node) → n.Placed lo hi → hi ≤ s.size →
    last ≤ n.start → n.items? s last = some (n.items s last)
  | ⟨kind, start, stop, children⟩, h, hs, hlast => by
    have hbounds := h.bounds
    have hchildren := h.children
    dsimp only at hlast hbounds hchildren
    unfold Node.items? Node.items
    cases kind with
    | element =>
      have hinside := items?_eq start none start stop children hchildren (by omega)
        (Nat.le_refl _) nofun
      have hname := Node.ofOpening?_eq _ lo hi h [] (·.textOf? s .tagName)
        (·.textOf s .tagName) fun tag htag => tag.textOf?_eq s _ _ htag (by dsimp only; omega) _
      dsimp only
      rw [hname, Node.openingAttributes?_eq s _ lo hi h hs, hinside]
      rfl
    | scriptElement =>
      dsimp only
      rw [Node.script?_eq s _ lo hi h hs]
      rfl
    | error => exact items?_eq last none start stop children hchildren (by omega) hlast nofun
    | _ => rfl

/-- Nothing is cut out of a page that is not a stretch of it. -/
theorem items?_eq (last : Nat) (run : Option Nat) (lo hi : Nat) : (nodes : List Node) →
    PlacedIn lo hi nodes → hi ≤ s.size → last ≤ lo →
    (∀ start, run = some start → start ≤ last) →
    items? s last run nodes = some (items s last run nodes)
  | [], h, hs, hlast, hrun => by
    unfold PlacedIn at h
    rw [items?, items]
    exact s.run?_eq run last hrun (by omega)
  | n :: rest, h, hs, hlast, hrun => by
    unfold PlacedIn at h
    obtain ⟨hn, hrest⟩ := h
    have hbounds := hn.bounds
    rw [items?, items]
    split
    · refine items?_eq n.stop _ n.stop hi rest hrest hs (Nat.le_refl _) ?_
      intro start hstart
      cases run with
      | none =>
        cases hstart
        omega
      | some first =>
        cases hstart
        have := hrun start rfl
        omega
    · have hinside := Node.items?_eq last lo hi n hn hs (by omega)
      have hbehind := items?_eq n.stop none n.stop hi rest hrest hs (Nat.le_refl _) nofun
      rw [s.run?_eq run last hrun (by omega), hinside, hbehind]
      rfl

end

end

end Glean.Markup
