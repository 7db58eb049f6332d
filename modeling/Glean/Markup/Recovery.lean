import Glean.Markup.Branches

set_option autoImplicit false

/-!
# Recovery from errors

A branch that can do nothing with the next token goes on in one of three ways: as if a token were
there that is missing, by giving up what it has read down to a phrase that can go on, or by passing
over the token.
-/
namespace Glean.Markup
namespace Branches

def passageLimit : Nat := 16

/-- The reductions before some terminals, each once, and whether one of these can be shifted. -/
def reductionsBefore (state : State) (terminals : List Sym) : List (Sym × Nat) × Bool :=
  let actions := terminals.flatMap state.action
  let reductions := actions.filterMap fun a =>
    match a with
    | .reduce sym (n + 1) => some (sym, n + 1)
    | _ => none
  let canGoOn := actions.any fun a =>
    match a with
    | .shift _ | .recover => true
    | _ => false
  (reductions.eraseDups, canGoOn)

def standsFor : Option Sym → List Sym
  | none => Sym.terminals
  | some .stop => Sym.terminals
  | some .error => []
  | some t => [t]

/-- Does all reductions on a branch that can be done before a token, or before any. The result tells
whether a branch then can go on. `round` counts the branches looked at, which begin at `v`; from
`old` on they are new. -/
def reduceAllFrom (next : Option Sym) (start old : Nat) :
    Nat → Nat → Nat → Bool → Branches → Branches × Bool
  | 0, _, _, can, b => (b, can)
  | fuel + 1, round, v, can, b =>
    let size := b.size
    if size ≤ v then (b, can)
    else
      match b.joinInto v ((List.range v).drop old) with
      | some b => reduceAllFrom next start old fuel (round + 1) v can b
      | none =>
        let (reductions, canGoOn) := reductionsBefore (b.top v).state (standsFor next)
        let (b, last) := reductions.foldl (fun acc r => acc.1.reduce v r.1 r.2) (b, none)
        let after := if v = start then size else v + 1
        if canGoOn then reduceAllFrom next start old fuel (round + 1) after true b
        else
          match last with
          | some w =>
            if round < width then
              reduceAllFrom next start old fuel (round + 1) v can (b.replace w v)
            else if next ≠ none ∧ next ≠ some .stop then
              reduceAllFrom next start old fuel (round + 1) after can (b.erase v)
            else reduceAllFrom next start old fuel (round + 1) after can b
          | none =>
            let b := if next ≠ none ∧ next ≠ some .stop then b.erase v else b
            reduceAllFrom next start old fuel (round + 1) after can b

def reduceAll (b : Branches) (v : Nat) (next : Option Sym) : Branches × Bool :=
  reduceAllFrom next v b.size (2 * b.frames.size + 64) 0 v false b

def supplyMissing? (b : Branches) (v : Nat) (i : Nat) (next : Sym) : List Sym → Branches × Bool
  | [] => (b, false)
  | t :: ts =>
    let state := (b.top v).state
    match state.after t with
    | none => supplyMissing? b v i next ts
    | some after =>
      let isReducing := match after.action next with
        | .reduce _ _ :: _ => true
        | _ => false
      if after = state ∨ !isReducing then supplyMissing? b v i next ts
      else
        let w := b.size
        let c := (b.add { b.branch v with passages := [] }).push w (.missing t i) after
        match c.reduceAll w (some next) with
        | (c, true) => (c, true)
        | (c, false) => supplyMissing? c v i next ts

/-- Tries to supply a missing token on each branch until one could be supplied, and gives up on
each. -/
def giveUp (i : Nat) (next : Sym) : Bool → List Nat → Branches → Branches
  | _, [], b => b
  | supplied, v :: vs, b =>
    let (b, supplied) :=
      if supplied then (b, true) else b.supplyMissing? v i next Sym.terminals
    giveUp i next supplied vs (b.pushFault v)

def passagesOf (b : Branches) (v : Nat) : List Passage :=
  let judge (found : List Passage) (w : Walker) (f : Frame) : List Passage × Verdict :=
    if passageLimit < w.depth then (found, ⟨false, true⟩)
    else if (found.takeWhile (w.depth ≤ ·.depth)).any
        fun p => p.depth = w.depth ∧ p.state = f.state then (found, ⟨false, false⟩)
    else (⟨f.pos, w.depth, f.state⟩ :: found, ⟨false, false⟩)
  (b.walkFrom v judge []).1.reverse

def takeIntoFault (goal : State) : Branches → Bool → List Popped → Branches × Bool
  | b, found, [] => (b, found)
  | b, found, p :: ps =>
    if (b.top p.branch).state ≠ goal then takeIntoFault goal (b.halt p.branch) found ps
    else
      let (b, old) := b.popFault p.branch
      let earlier := (old.map (·.children)).getD []
      let (children, extras) := cutExtras (earlier ++ p.ways.headD [])
      let b :=
        if children.isEmpty then b
        else b.push p.branch { Tree.phrase b.page .error children 0 with extra := true } goal
      takeIntoFault goal (b.pushAll p.branch extras goal) true ps

def goBackTo (b : Branches) (v depth : Nat) (goal : State) : Branches × Bool :=
  let (b, popped) := b.pop v depth
  takeIntoFault goal b false popped

/-- Goes back to the first passage from which the next token leads on, as long as that costs less
than other readings do. -/
def goBack (next : Sym) (v before pos cost : Nat) (hasProgress : Bool) :
    List Passage → Branches → Branches × Bool
  | [], b => (b, false)
  | p :: ps, b =>
    let isOther := p.state ≠ .fault && p.pos ≠ pos &&
      !(List.range before).any fun w => (b.top w).state = p.state && (b.top w).pos = pos
    if !isOther then goBack next v before pos cost hasProgress ps b
    else if b.hasBetter v
        (cost + p.depth * Markup.cost.tree + Tree.stretchCost b.page p.pos pos) then (b, false)
    else if (p.state.action next).isEmpty then goBack next v before pos cost hasProgress ps b
    else
      match b.goBackTo v (if hasProgress then p.depth + 1 else p.depth) p.state with
      | (b, true) => (b, true)
      | (b, false) => goBack next v before pos cost hasProgress ps b

def passOver (b : Branches) (v : Nat) (next : Tree) : Branches :=
  let pos := (b.top v).pos
  let next := if next.sym = .comment then { next with extra := true } else next
  let passed := Tree.phrase b.page .passed [next] pos
  let (b, passed) :=
    if b.progress v = 0 then (b, passed)
    else
      match b.pop v 1 with
      | (b, p :: _) =>
        let b := { b with all := b.all.take (p.branch + 1) }
        (b.replace p.branch v, Tree.phrase b.page .passed (p.ways.headD [] ++ [passed]) pos)
      | (b, []) => (b, passed)
  let b := b.push v passed .fault
  if next.tags.isSome then b.modify v ({ · with tags := next.tags }) else b

def recover (b : Branches) (v : Nat) (next : Ahead) : Branches :=
  let b := b.settle
  let before := b.size
  let cost := b.cost v
  let pos := (b.top v).pos
  let passages := if next.tree.sym = .error then [] else (b.branch v).passages
  let (b, found) := goBack next.tree.sym v before pos cost (0 < b.progress v) passages b
  let b := { b with
    all := b.all.take before ++ (b.all.drop before).filter fun (w : Branch) => w.status.isActive }
  if next.tree.sym = .stop then
    (b.push v (.phrase b.page .error [] pos) .start).accept v next.tree
  else if found && (width < b.size || next.changesTags) then b.halt v
  else if b.hasBetter v
      (cost + Markup.cost.tree + Tree.stretchCost b.page next.tree.pad next.tree.stop) then
    b.halt v
  else b.passOver v next.tree

def handleFault (b : Branches) (v : Nat) (next : Ahead) : Branches :=
  let before := b.size
  let pos := (b.top v).pos
  let (b, _) := b.reduceAll v none
  let new := (List.range b.size).drop before
  let b := giveUp pos next.tree.sym false (v :: new) b
  let b := new.foldl (fun b _ => (b.join? v before).getD b) b
  let passages := b.passagesOf v
  (b.modify v ({ · with passages })).recover v next

end Branches
end Glean.Markup
