import Glean.Markup.Reading

set_option autoImplicit false

/-!
# Nodes

The nodes of a page that have a name, each with its place in characters. Trees are laid out one
behind the other, so siblings are disjoint and in order, and a node covers what is below it.
-/
namespace Glean.Markup

structure Node where
  kind : Kind
  start : Nat
  stop : Nat
  children : List Node
  deriving Inhabited

/-- Where a tree lies, and the nodes up to its end, the last one in front. -/
structure Laid where
  start : Nat
  stop : Nat
  nodes : List Node

mutual

/-- Lays out a tree behind the nodes in front of it, from `i` on and not beyond `limit`. -/
def Tree.layOut (limit : Nat) (parent : Sym) : Tree → Nat → List Node → Laid
  | { sym, pad, start, stop, children, extra, .. }, i, before =>
    let isAliased := !parent.isFault && !extra
    let kind := (if isAliased then sym.alias? else none).or sym.kind?
    match kind, children with
    | none, [] => ⟨min (i + (start - pad)) limit, min (i + (stop - pad)) limit, before⟩
    | some kind, [] =>
      let first := min (i + (start - pad)) limit
      let last := min (i + (stop - pad)) limit
      ⟨first, last, ⟨kind, first, last, []⟩ :: before⟩
    | none, children => layOutAll limit sym children i before
    | some kind, children =>
      let inner := layOutAll limit sym children i []
      ⟨inner.start, inner.stop, ⟨kind, inner.start, inner.stop, inner.nodes.reverse⟩ :: before⟩

def layOutAll (limit : Nat) (parent : Sym) : List Tree → Nat → List Node → Laid
  | [], i, before => ⟨i, i, before⟩
  | t :: ts, i, before =>
    let first := t.layOut limit parent i before
    let rest := layOutAll limit parent ts first.stop first.nodes
    ⟨first.start, rest.stop, rest.nodes⟩

end

def Page.nodes (s : Page) : List Node :=
  let root := s.tree
  (layOutAll s.size root.sym root.children 0 []).nodes.reverse

end Glean.Markup
