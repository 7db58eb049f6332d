import Glean.Markup.Recovery
import Glean.Markup.TagScan

set_option autoImplicit false

/-!
# Reading markup

Every page has a tree. All branches are advanced in turn; then those that are alike are joined,
and those that cost more by far than another one are dropped.
-/
namespace Glean.Markup

structure Remembered where
  pos : Nat
  tags : Option (List Tag)
  state : State
  next : Ahead

structure Reading where
  branches : Branches
  remembered : Option Remembered := none

namespace Reading

/-- Whether a branch has moved on since its last error. Empty tokens are read only then. -/
def hasAdvanced (b : Branches) (weightAtFault : Nat) : Nat → Frame → Bool
  | 0, _ => false
  | fuel + 1, f =>
    match f.links with
    | [] => false
    | l :: _ =>
      match l.tree with
      | none => false
      | some t =>
        0 < b.page.bytesIn t.pad t.stop ||
          (weightAtFault < f.weight && t.cost = 0 &&
            hasAdvanced b weightAtFault fuel (b.frame l.below))

/-- Reads a token that depends on the open tags, in a given state or, with `lost`, in any. -/
def tagToken (b : Branches) (v : Nat) (lost : Bool) (i : Nat) : Option Ahead :=
  let branch := b.branch v
  let state := (b.top v).state
  let wanted := (if lost then State.fault else state).wanted
  (scanTag b.page wanted (branch.tags.getD []) i).bind fun found =>
    let tags := Tag.remember found.tags
    let changesTags := some tags ≠ branch.tags
    let advanced := (b.top v).cost = 0 ||
      hasAdvanced b branch.weightAtFault b.frames.size (b.top v)
    let leadsOn := !lost && advanced && state.after found.sym ≠ some state
    if found.stop ≤ i && !changesTags && !leadsOn then none
    else
      some ⟨{ sym := found.sym, pad := (b.top v).pos, start := found.start, stop := found.stop
              tags := some tags }, changesTags⟩

def skipToToken (b : Branches) (v : Nat) : Nat → Nat → Nat → Nat → Ahead
  | 0, start, stop, _ => unread start stop
  | fuel + 1, start, stop, i =>
    if (tagToken b v true i).isSome then unread start stop
    else
      let found := Mode.any.next b.page i
      if found.token.isSome then unread start stop
      else if found.reach ≠ stop then skipToToken b v fuel start found.reach found.reach
      else if b.page.size ≤ found.reach then unread start stop
      else skipToToken b v fuel start (found.reach + 1) (found.reach + 1)
where
  unread (start stop : Nat) : Ahead :=
    ⟨{ sym := .error, pad := (b.top v).pos, start, stop }, false⟩

def plainToken (b : Branches) (v : Nat) (m : Mode) : Found × Option Ahead :=
  let pos := (b.top v).pos
  let found := m.next b.page pos
  (found, found.token.map fun (sym, stop) =>
    ⟨{ sym, pad := pos, start := found.start, stop, extra := sym = .stop }, false⟩)

/-- The next token of a branch. Where none can be read in its state, one is read in any state, and
where there is none of these either, characters are passed over. -/
def nextToken (b : Branches) (v : Nat) : Ahead :=
  let state := (b.top v).state
  let pos := (b.top v).pos
  let inState :=
    if state = .fault then none
    else
      match tagToken b v false pos with
      | some next => some next
      | none => (plainToken b v state.mode).2
  match inState with
  | some next => next
  | none =>
    match tagToken b v true pos with
    | some next => next
    | none =>
      match plainToken b v .any with
      | (_, some next) => next
      | (found, none) =>
        let start := found.start
        if found.reach ≠ start then skipToToken b v (b.page.size + 2) start found.reach found.reach
        else if b.page.size ≤ found.reach then
          ⟨{ sym := .error, pad := pos, start, stop := start }, false⟩
        else
          skipToToken b v (b.page.size + 2) start (found.reach + 1) (found.reach + 1)

def canReuse (old : Remembered) (state : State) : Bool :=
  !(state.action old.next.tree.sym).isEmpty && state.mode = old.state.mode &&
    state.wanted = old.state.wanted

def act (v : Nat) (next : Ahead) : Nat → Branches → Branches
  | 0, b => b.halt v
  | fuel + 1, b =>
    let state := (b.top v).state
    let rec run (b : Branches) (last : Option Nat) (reduced : Bool) :
        List Action → Branches × Option (Option Nat)
      | [] =>
        if last.isSome then (b, some last)
        else if reduced then (b.halt v, none)
        else
          (b.modify v fun branch =>
            { branch with status := .stuck next, weightAtFault := (b.top v).weight }, none)
      | .shift target :: _ => (shift b next.tree target, none)
      | .shiftExtra :: _ => (shift b { next.tree with extra := true } state, none)
      | .accept :: _ => (b.accept v next.tree, none)
      | .recover :: _ => (b.recover v next, none)
      | .shiftOn _ :: rest => run b last reduced rest
      | .reduce sym n :: rest =>
        match b.reduce v sym n with
        | (b, some w) => run b (some w) true rest
        | (b, none) => run b last true rest
    match run b none false (state.action next.tree.sym) with
    | (b, some (some w)) => act v next fuel (b.replace w v)
    | (b, _) => b
where
  shift (b : Branches) (t : Tree) (target : State) : Branches :=
    let b := b.push v t target
    if t.tags.isSome then b.modify v ({ · with tags := t.tags }) else b

def advance (r : Reading) (v : Nat) : Reading :=
  let b := r.branches
  let pos := (b.top v).pos
  let tags := (b.branch v).tags
  let state := (b.top v).state
  let known := r.remembered.filter fun old =>
    old.pos = pos && old.tags = tags && canReuse old state
  let now := known.getD ⟨pos, tags, state, nextToken b v⟩
  ⟨act v now.next (b.frames.size + 64) b, some now⟩

def weigh (standing : Branches.Standing) (i : Nat) : Nat → Nat → Branches → Branches × Nat
  | 0, _, b => (b, i + 1)
  | fuel + 1, j, b =>
    if i ≤ j then (b, i + 1)
    else
      match (b.standing j).compare standing with
      | .takeFirst => (b.erase i, i)
      | .takeSecond =>
        match i with
        | 0 => (b, i + 1)
        | i + 1 => weigh standing i fuel j (b.erase j)
      | .preferSecond =>
        match b.join? j i with
        | some b => (b, i)
        | none => weigh standing i fuel (j + 1) (swap b i j)
      | _ =>
        match b.join? j i with
        | some b => (b, i)
        | none => weigh standing i fuel (j + 1) b
where
  swap (b : Branches) (i j : Nat) : Branches :=
    { b with all := (b.all.set i (b.branch j)).set j (b.branch i) }

/-- Joins and drops branches. The result tells the least cost of a branch without an error. -/
def thin : Nat → Nat → Option Nat → Branches → Branches × Option Nat
  | 0, _, least, b => (b, least)
  | fuel + 1, i, least, b =>
    if b.size ≤ i then (b, least)
    else
      match (b.branch i).status with
      | .halted => thin fuel i least (b.erase i)
      | _ =>
        let standing := b.standing i
        let least :=
          if standing.isFaulty then least
          else some ((least.map (min standing.cost)).getD standing.cost)
        let (b, i) := weigh standing i (i + 1) 0 b
        thin fuel i least b

/-- Goes on with the first of the branches that are stuck, if nothing else can be gone on with. The
others are dropped. -/
def resume : Nat → Nat → Bool → Option Nat → Branches → Branches × Option Nat
  | 0, _, _, least, b => (b, least)
  | n + 1, i, found, least, b =>
    match (b.branch i).status with
    | .stuck next =>
      if !found && b.acceptances < Branches.width then
        let least := some (b.cost i)
        let b := (b.modify i ({ · with status := .active })).handleFault i next
        resume n (i + 1) true least b
      else resume n i found least (b.erase i)
    | _ => resume n (i + 1) true least b

def condense (b : Branches) : Branches × Option Nat :=
  let b := b.settle
  let (b, least) := thin b.size 0 none b
  let b := { b with all := b.all.take Branches.width }
  resume b.size 0 false least b

def isDone (b : Branches) (least : Option Nat) : Bool :=
  match b.finished, least with
  | some t, some n => t.cost < n
  | some _, none => true
  | none, _ => false

/-- Advances each branch as far as the one in front of it, then condenses. -/
def run : Nat → Nat → Nat → Reading → Reading
  | 0, _, _, r => r
  | fuel + 1, v, last, r =>
    let b := r.branches
    if b.size ≤ v then
      let (c, least) := condense b
      if b.size = 0 ∨ isDone c least then { r with branches := c }
      else run fuel 0 last { r with branches := c }
    else if b.isActive v then
      let r := r.advance v
      let pos := if v < r.branches.size then (r.branches.top v).pos else 0
      if last < pos ∨ (0 < v ∧ pos = last) then run fuel (v + 1) pos r else run fuel v last r
    else run fuel (v + 1) last r

end Reading

@[irreducible] def Page.tree (s : Page) : Tree :=
  let bottom : Frame := { state := .start, pos := 0 }
  let b : Branches := { page := s, frames := #[bottom], all := [{ top := 0 }] }
  let r := Reading.run (1000 * (s.size + 10)) 0 0 { branches := b }
  r.branches.finished.getD (.phrase s .document [] 0)

end Glean.Markup
