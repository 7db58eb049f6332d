import Glean.Markup.Automaton
import Glean.Markup.Tree

set_option autoImplicit false

/-!
# Branches of a reading

Where markup can be read in several ways, they are followed side by side. A branch ends in a frame,
and every frame knows the frames below it, so that branches share what they have in common and can
be joined again.
-/
namespace Glean.Markup

/-- A way down to an earlier frame. Where a reading gave up there is no tree on it. -/
structure Link where
  below : Nat
  tree : Option Tree
  deriving Inhabited

structure Frame where
  state : State
  pos : Nat
  links : List Link := []
  cost : Nat := 0
  weight : Nat := 0
  deriving Inhabited

structure Ahead where
  tree : Tree
  changesTags : Bool
  deriving Inhabited

inductive Status
  | active
  | halted
  | stuck (next : Ahead)
  deriving Inhabited

def Status.isActive : Status → Bool
  | active => true
  | _ => false

structure Passage where
  pos : Nat
  depth : Nat
  state : State

/-- A reading of the page so far, with what it had read at its last error and the frames from which
it could go on behind one. -/
structure Branch where
  top : Nat
  weightAtFault : Nat := 0
  status : Status := .active
  tags : Option (List Tag) := none
  passages : List Passage := []
  deriving Inhabited

structure Popped where
  branch : Nat
  ways : List (List Tree)

structure Branches where
  page : Page
  frames : Array Frame
  all : List Branch
  finished : Option Tree := none
  acceptances : Nat := 0

namespace Branches

/-- How many branches are kept. -/
def width : Nat := 6

/-- How many more there may be in between. -/
def spare : Nat := 4

def linkLimit : Nat := 8

def walkLimit : Nat := 64

def frame (b : Branches) (i : Nat) : Frame := b.frames.getD i default

def branch (b : Branches) (v : Nat) : Branch := b.all.getD v default

def top (b : Branches) (v : Nat) : Frame := b.frame (b.branch v).top

def size (b : Branches) : Nat := b.all.length

def isActive (b : Branches) (v : Nat) : Bool :=
  match b.all[v]? with
  | some branch => branch.status.isActive
  | none => false

def modify (b : Branches) (v : Nat) (f : Branch → Branch) : Branches :=
  { b with all := b.all.modify v f }

def erase (b : Branches) (v : Nat) : Branches := { b with all := b.all.eraseIdx v }

def halt (b : Branches) (v : Nat) : Branches := b.modify v ({ · with status := .halted })

def add (b : Branches) (branch : Branch) : Branches := { b with all := b.all ++ [branch] }

def replace (b : Branches) (v target : Nat) : Branches :=
  if v = target then b
  else
    let old := b.branch target
    let new := b.branch v
    let new := if new.passages.isEmpty then { new with passages := old.passages } else new
    { b with all := (b.all.set target new).eraseIdx v }

def push (b : Branches) (v : Nat) (t : Tree) (state : State) : Branches :=
  let below := (b.branch v).top
  let f := b.frame below
  let new : Frame :=
    { state, pos := f.pos + t.size, links := [⟨below, t⟩], cost := f.cost + t.cost
      weight := f.weight + t.weight }
  let top := b.frames.size
  { b with frames := b.frames.push new, all := b.all.modify v ({ · with top }) }

def pushAll (b : Branches) (v : Nat) (ts : List Tree) (state : State) : Branches :=
  ts.foldl (fun b t => b.push v t state) b

def pushFault (b : Branches) (v : Nat) : Branches :=
  let below := (b.branch v).top
  let f := b.frame below
  let new : Frame := { f with state := .fault, links := [⟨below, none⟩] }
  let top := b.frames.size
  { b with
    frames := b.frames.push new
    all := b.all.modify v ({ · with top, weightAtFault := f.weight }) }

def progress (b : Branches) (v : Nat) : Nat := (b.top v).weight - (b.branch v).weightAtFault

def settle (b : Branches) : Branches :=
  { b with
    all := b.all.map fun branch =>
      { branch with weightAtFault := min branch.weightAtFault (b.frame branch.top).weight } }

def cost (b : Branches) (v : Nat) : Nat :=
  let f := b.top v
  let gaveUp := f.state = .fault ∧ (f.links.head?.any (·.tree.isNone))
  match (b.branch v).status with
  | .stuck _ => f.cost + Markup.cost.error
  | _ => if gaveUp then f.cost + Markup.cost.error else f.cost

def areLike (f g : Frame) : Bool := f.state = g.state && f.pos = g.pos && f.cost = g.cost

/-- Adds a way down to a frame. A way that is like one there is joined with it further below. -/
def link (page : Page) : Nat → Array Frame → Nat → Link → Array Frame
  | 0, frames, _, _ => frames
  | fuel + 1, frames, i, new =>
    if new.below = i then frames
    else
      let f := frames.getD i default
      let g := frames.getD new.below default
      let old := f.links.find? fun old =>
        Tree.isLike page old.tree new.tree &&
          (old.below = new.below || areLike (frames.getD old.below default) g)
      match old with
      | some old =>
        if old.below = new.below then frames
        else g.links.foldl (fun frames l => link page fuel frames old.below l) frames
      | none =>
        if linkLimit ≤ f.links.length then frames
        else
          let weight := g.weight + (new.tree.map Tree.weight).getD 0
          frames.setIfInBounds i
            { f with links := f.links ++ [new], weight := max f.weight weight }

def canJoin (b : Branches) (v w : Nat) : Bool :=
  b.isActive v && b.isActive w && areLike (b.top v) (b.top w) &&
    (b.branch v).tags = (b.branch w).tags

def join? (b : Branches) (v w : Nat) : Option Branches :=
  if b.canJoin v w then
    let i := (b.branch v).top
    let frames := (b.top w).links.foldl (link b.page (b.frames.size + 1) · i ·) b.frames
    let b := { b with frames }
    let b := if (b.top v).state = .fault then
        b.modify v ({ · with weightAtFault := (b.top v).weight })
      else b
    some (b.erase w)
  else none

def joinInto (b : Branches) (v : Nat) : List Nat → Option Branches
  | [] => none
  | w :: ws =>
    match b.join? w v with
    | some b => some b
    | none => joinInto b v ws

/-- A way down that is being followed, with the trees on it and the number of those that stand
inside the grammar. -/
structure Walker where
  at' : Nat
  trees : List Tree := []
  depth : Nat := 0

/-- What is done with a way down: it is given out, and it goes no further. -/
structure Verdict where
  pops : Bool
  stops : Bool

def Walker.follow (w : Walker) (l : Link) : Walker :=
  match l.tree with
  | some t => ⟨l.below, t :: w.trees, if t.extra then w.depth else w.depth + 1⟩
  | none => ⟨l.below, w.trees, w.depth + 1⟩

/-- Takes every way one step further. `kept` and `fresh` are in reverse. -/
def walkRound {σ : Type} (frames : Array Frame) (judge : σ → Walker → Frame → σ × Verdict) :
    σ → List Walker → List Walker → List Walker → List Walker → σ × List Walker × List Walker
  | s, [], kept, fresh, popped => (s, kept.reverse ++ fresh.reverse, popped)
  | s, w :: ws, kept, fresh, popped =>
    let f := frames.getD w.at' default
    let (s, verdict) := judge s w f
    let popped := if verdict.pops then w :: popped else popped
    match f.links, verdict.stops with
    | first :: others, false =>
      let room := walkLimit - (kept.length + 1 + ws.length + fresh.length)
      let more := (others.take room).map w.follow
      walkRound frames judge s ws (w.follow first :: kept) (more.reverse ++ fresh) popped
    | _, _ => walkRound frames judge s ws kept fresh popped

def walk {σ : Type} (frames : Array Frame) (judge : σ → Walker → Frame → σ × Verdict) :
    Nat → σ → List Walker → List Walker → σ × List Walker
  | 0, s, _, popped => (s, popped.reverse)
  | fuel + 1, s, walkers, popped =>
    if walkers.isEmpty then (s, popped.reverse)
    else
      let (s, walkers, popped) := walkRound frames judge s walkers [] [] popped
      walk frames judge fuel s walkers popped

def walkFrom {σ : Type} (b : Branches) (v : Nat) (judge : σ → Walker → Frame → σ × Verdict)
    (s : σ) : σ × List Walker :=
  walk b.frames judge (b.frames.size + 1) s [⟨(b.branch v).top, [], 0⟩] []

def gather : List Walker → List (Nat × List (List Tree)) → List (Nat × List (List Tree))
  | [], groups => groups
  | w :: ws, groups =>
    if groups.any (·.1 = w.at') then
      gather ws (groups.map fun g => if g.1 = w.at' then (g.1, g.2 ++ [w.trees]) else g)
    else gather ws (groups ++ [(w.at', [w.trees])])

def addPopped (b : Branches) (v : Nat) (walkers : List Walker) : Branches × List Popped :=
  let old := b.branch v
  let groups := gather walkers []
  let new := groups.map fun g => { old with top := g.1, status := .active, passages := [] }
  ({ b with all := b.all ++ new }, groups.mapIdx fun k g => ⟨b.size + k, g.2⟩)

/-- Takes a number of trees off a branch, with the trees outside the grammar between them. -/
def pop (b : Branches) (v n : Nat) : Branches × List Popped :=
  let judge (s : Unit) (w : Walker) (_ : Frame) : Unit × Verdict :=
    (s, if w.depth = n then ⟨true, true⟩ else ⟨false, false⟩)
  b.addPopped v (b.walkFrom v judge ()).2

def waysToBottom (b : Branches) (v : Nat) : List (List Tree) :=
  let judge (s : Unit) (_ : Walker) (f : Frame) : Unit × Verdict :=
    (s, if f.links.isEmpty then ⟨true, true⟩ else ⟨false, false⟩)
  (b.walkFrom v judge ()).2.map (·.trees)

def popFault (b : Branches) (v : Nat) : Branches × Option Tree :=
  let isFault (l : Link) : Bool := l.tree.any (·.sym = .error)
  match (b.top v).links.find? isFault with
  | some l => (b.modify v ({ · with top := l.below }), l.tree)
  | none => (b, none)

def cutExtras (ts : List Tree) : List Tree × List Tree :=
  let extras := (ts.reverse.takeWhile (·.extra)).reverse
  (ts.take (ts.length - extras.length), extras)

def bestPhrase (page : Page) (sym : Sym) (i : Nat) : List (List Tree) → Tree × List Tree
  | [] => (.phrase page sym [] i, [])
  | way :: ways =>
    let build (way : List Tree) : Tree × List Tree :=
      let (children, extras) := cutExtras way
      (.phrase page sym children i, extras)
    ways.foldl (fun best way => if best.1.prefersSecond (build way).1 then build way else best)
      (build way)

def reducePopped (v : Nat) (sym : Sym) (limit : Nat) : Branches → Nat → List Popped → Branches
  | b, _, [] => b
  | b, erased, p :: ps =>
    let w := p.branch - erased
    if limit < w then reducePopped v sym limit (b.erase w) (erased + 1) ps
    else
      let state := (b.top w).state
      let (phrase, extras) := bestPhrase b.page sym (b.top w).pos p.ways
      let next := (state.goto sym).getD .fault
      let b := (b.push w phrase next).pushAll w extras next
      match b.joinInto w ((List.range w).filter (· ≠ v)) with
      | some b => reducePopped v sym limit b (erased + 1) ps
      | none => reducePopped v sym limit b erased ps

/-- Reduces a phrase on a branch. The new branches stand behind the others; the first of them is
given back. -/
def reduce (b : Branches) (v : Nat) (sym : Sym) (n : Nat) : Branches × Option Nat :=
  let before := b.size
  let (popped, ps) := b.pop v n
  let halted := popped.all.countP fun branch =>
    match branch.status with
    | .halted => true
    | _ => false
  let b := reducePopped v sym (width + spare + halted) popped 0 ps
  (b, if before < b.size then some before else none)

/-- The tree of a whole page: the last tree inside the grammar takes in what is around it. -/
def rootOf (page : Page) (ts : List Tree) : Option Tree :=
  match ts.reverse.dropWhile (·.extra) with
  | [] => none
  | root :: before =>
    let behind := (ts.reverse.takeWhile (·.extra)).reverse
    some (.phrase page root.sym (before.reverse ++ root.children ++ behind) 0)

def accept (b : Branches) (v : Nat) (stop : Tree) : Branches :=
  let b := b.push v { stop with extra := true } .start
  let roots := (b.waysToBottom v).filterMap (rootOf b.page)
  let finished := roots.foldl (fun best root =>
    match best with
    | some t => if t.prefersSecond root then some root else some t
    | none => some root) b.finished
  { b.halt v with finished, acceptances := b.acceptances + roots.length }

structure Standing where
  cost : Nat
  progress : Nat
  isFaulty : Bool

inductive Preference
  | takeFirst
  | preferFirst
  | neither
  | preferSecond
  | takeSecond
  deriving DecidableEq

def standing (b : Branches) (v : Nat) : Standing :=
  match (b.branch v).status with
  | .stuck _ => ⟨b.cost v + Markup.cost.tree, b.progress v, true⟩
  | _ => ⟨b.cost v, b.progress v, (b.top v).state = .fault⟩

/-- A branch that costs more by far is not worth following, and the less so the more has been read
on the other one. -/
def Standing.compare (x y : Standing) : Preference :=
  if !x.isFaulty && y.isFaulty then if x.cost < y.cost then .takeFirst else .preferFirst
  else if x.isFaulty && !y.isFaulty then if y.cost < x.cost then .takeSecond else .preferSecond
  else if x.cost < y.cost then
    if limit < (y.cost - x.cost) * (1 + x.progress) then .takeFirst else .preferFirst
  else if y.cost < x.cost then
    if limit < (x.cost - y.cost) * (1 + y.progress) then .takeSecond else .preferSecond
  else .neither
where
  limit : Nat := 18 * Markup.cost.tree

def hasBetter (b : Branches) (v cost : Nat) : Bool :=
  let standing : Standing := ⟨cost, b.progress v, false⟩
  b.finished.any (·.cost ≤ cost) ||
    (List.range b.size).any fun w =>
      w ≠ v && b.isActive w && (b.top v).pos ≤ (b.top w).pos &&
        match standing.compare (b.standing w) with
        | .takeSecond => true
        | .preferSecond => b.canJoin w v
        | _ => false

end Branches

end Glean.Markup
