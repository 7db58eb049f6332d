import Glean.Markup.Automaton
import Glean.Markup.Page
import Glean.Markup.Tag

set_option autoImplicit false

/-!
# Trees and what errors cost

A tree carries what is summed over it: the cost of the errors in it and how many nodes it shows. The
cost grows with what was passed over, so the reading that passes over least is the best.
-/
namespace Glean.Markup

def total (ns : List Nat) : Nat := ns.foldr (· + ·) 0

/-- What an error costs, and what is added for a token that is missing and for every tree, byte and
line that is passed over. -/
structure Cost where
  error : Nat := 500
  missing : Nat := 110
  tree : Nat := 100
  byte : Nat := 1
  line : Nat := 30

def cost : Cost := {}

/-- A token or a phrase. `pad` is where the white space in front of it begins, `extra` is set
outside the grammar, and `tags` are the open tags behind a token that depends on them. -/
structure Tree where
  sym : Sym
  pad : Nat
  start : Nat
  stop : Nat
  children : List Tree := []
  cost : Nat := 0
  shownBelow : Nat := 0
  shownChildren : Nat := 0
  extra : Bool := false
  tags : Option (List Tag) := none
  deriving Inhabited

namespace Tree

def missing (sym : Sym) (i : Nat) : Tree :=
  { sym, pad := i, start := i, stop := i, cost := Markup.cost.missing + Markup.cost.error }

def size (t : Tree) : Nat := t.stop - t.pad

/-- How far a tree has brought the reading, in nodes. -/
def weight (t : Tree) : Nat :=
  t.shownBelow + (if t.sym.isVisible then 1 else 0) + (if t.sym = .passed then 1 else 0)

def passingCost (c : Tree) : Nat :=
  if c.extra || (c.sym = .error && c.children.isEmpty) then 0
  else if c.sym.isVisible then Markup.cost.tree
  else Markup.cost.tree * c.shownChildren

def stretchCost (s : Page) (i j : Nat) : Nat :=
  Markup.cost.byte * s.bytesIn i j + Markup.cost.line * s.breaksIn i j

def isAliased (parent : Sym) (c : Tree) : Bool :=
  !parent.isFault && !c.extra && c.sym ≠ .stop && c.sym.alias?.isSome

/-- A phrase of some children. One without children stands at `i`. -/
def phrase (s : Page) (sym : Sym) (children : List Tree) (i : Nat) : Tree :=
  let pad := (children.head?.map (·.pad)).getD i
  let start := (children.head?.map (·.start)).getD i
  let stop := match children with
    | [] => i
    | c :: rest => rest.foldl (fun n t => n + t.size) c.stop
  let inner := total (children.map fun c => if c.sym = .passed then 0 else c.cost)
  let own :=
    if sym.isFault then
      total (children.map passingCost) + Markup.cost.error + stretchCost s start stop
    else 0
  let isShown (c : Tree) : Bool := isAliased sym c || c.sym.isVisible
  { sym, pad, start, stop, children
    cost := inner + own
    shownBelow := total (children.map fun c => c.shownBelow + if isShown c then 1 else 0)
    shownChildren := total (children.map fun c => if isShown c then 1 else c.shownChildren) }

/-- Whether two trees can stand for each other on the stack. -/
def isLike (s : Page) : Option Tree → Option Tree → Bool
  | none, none => true
  | some a, some b =>
    a.sym = b.sym &&
      ((0 < a.cost && 0 < b.cost) ||
        (a.start - a.pad = b.start - b.pad && s.bytesIn a.start a.stop = s.bytesIn b.start b.stop &&
          a.children.length = b.children.length && a.extra = b.extra && a.tags = b.tags))
  | _, _ => false

def prefersSecond (a b : Tree) : Bool := b.cost < a.cost || (a.cost = b.cost && 0 < a.cost)

end Tree

end Glean.Markup
