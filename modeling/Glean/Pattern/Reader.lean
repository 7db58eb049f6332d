import Glean.Pattern.Reader.Class

set_option autoImplicit false

/-!
# Reading patterns

A pattern is read from the front with the groups that are open. A sign of repetition applies to the
last item; flags apply to the rest of their group.
-/
namespace Glean.Pattern

/-- A part of a branch. Flags are a part that cannot be repeated. -/
structure Item where
  expr : Expr
  depth : Nat
  isFlags : Bool := false
  deriving Repr

/-- A group that is open: the flags that hold behind it, its finished branches and the items of the
last one, latest first. -/
structure OpenGroup where
  after : Flags
  branches : List (Nested Expr) := []
  items : List Item := []
  deriving Repr

namespace OpenGroup

def branch (g : OpenGroup) : Nested Expr :=
  match g.items with
  | [] => ⟨.empty, 0⟩
  | [i] => ⟨i.expr, i.depth⟩
  | i :: is => ⟨is.foldl (fun e j => .seq j.expr e) i.expr,
      (is.foldl (fun d j => max d j.depth) i.depth) + 1⟩

def value (g : OpenGroup) : Nested Expr :=
  match g.branches with
  | [] => g.branch
  | bs =>
    let last := g.branch
    ⟨bs.foldl (fun e b => .alt b.val e) last.val,
      (bs.foldl (fun d b => max d b.depth) last.depth) + 1⟩

def push (g : OpenGroup) (i : Item) : OpenGroup := { g with items := i :: g.items }

def nextBranch (g : OpenGroup) : OpenGroup :=
  { g with branches := g.branch :: g.branches, items := [] }

def repeated (g : OpenGroup) (min : Nat) (max : Option Nat) : Except Fault OpenGroup :=
  match g.items with
  | i :: is =>
    if i.isFlags then .error .nothingToRepeat
    else .ok { g with items := ⟨.loop i.expr min max, i.depth + 1, false⟩ :: is }
  | [] => .error .nothingToRepeat

end OpenGroup

/-- What is known while a pattern is read: the flags, the innermost group, the groups around it and
the names in use. -/
structure Reading where
  flags : Flags := {}
  group : OpenGroup := ⟨{}, [], []⟩
  outer : List OpenGroup := []
  names : List (List Char) := []
  deriving Repr

def Flags.set? (f : Flags) (letter : Char) (value : Bool) : Option Flags :=
  match letter with
  | 'i' => some { f with ignoreCase := value }
  | 'm' => some { f with multiLine := value }
  | 's' => some { f with dotAll := value }
  | 'u' => some { f with unicode := value }
  | 'R' => some { f with anyLineEnd := value }
  | 'x' => some { f with spaced := value }
  | 'U' => some f
  | _ => none

/-- Reads flags up to `)` or `:`. Each letter and the minus sign may stand once, the minus sign not
at the end. -/
def readFlags : Flags → Bool → List Char → List Char → Except Fault (Flags × Bool × List Char)
  | _, _, _, [] => .error .badFlags
  | f, value, seen, c :: cs =>
    if c = ')' ∨ c = ':' then
      if seen.head? = some '-' then .error .badFlags else .ok (f, seen.isEmpty, c :: cs)
    else if seen.contains c then .error .badFlags
    else if c = '-' then readFlags f false (c :: seen) cs
    else
      match f.set? c value with
      | some f => readFlags f value (c :: seen) cs
      | none => .error .badFlags

def isNameChar (isFirst : Bool) (c : Char) : Bool :=
  let letter := ((Unicode.property? "Alphabetic".toList).getD .none).contains c
  let number := ((Unicode.category? ['N']).getD .none).contains c
  c = '_' || letter || (!isFirst && (number || c = '.' || c = '[' || c = ']'))

def readName (names : List (List Char)) (cs : List Char) : Except Fault (List Char × List Char) :=
  let name := cs.takeWhile (· ≠ '>')
  let isGood : Bool := match name with
    | [] => false
    | c :: rest => isNameChar true c && rest.all (isNameChar false)
  match cs.drop name.length with
  | _ :: rest => if isGood && !names.contains name then .ok (name, rest) else .error .badGroupName
  | [] => .error .badGroupName

def Reading.openGroup (r : Reading) (cs : List Char) :
    Except Fault (Reading × List Char) := do
  let inside (r : Reading) (f : Flags) : Reading :=
    { r with flags := f, group := ⟨r.flags, [], []⟩, outer := r.group :: r.outer }
  let cs := r.flags.skip cs
  let named (cs : List Char) : Except Fault (Reading × List Char) := do
    let (name, rest) ← readName r.names cs
    return ({ inside r r.flags with names := name :: r.names }, rest)
  match cs with
  | '?' :: '=' :: _ | '?' :: '!' :: _ | '?' :: '<' :: '=' :: _ | '?' :: '<' :: '!' :: _ =>
    .error .lookAround
  | '?' :: 'P' :: '<' :: rest => named rest
  | '?' :: '<' :: rest => named rest
  | '?' :: rest => do
    let (f, isEmpty, rest) ← readFlags r.flags true [] rest
    match rest with
    | ':' :: rest => return (inside r f, rest)
    | rest =>
      if isEmpty then .error .nothingToRepeat
      else return ({ r with flags := f, group := r.group.push ⟨.empty, 0, true⟩ }, rest.tail)
  | cs => return (inside r r.flags, cs)

def Reading.closeGroup (r : Reading) : Except Fault Reading :=
  match r.outer with
  | [] => .error .unopenedGroup
  | g :: outer =>
    let v := r.group.value
    .ok { r with
      flags := r.group.after, group := g.push ⟨v.val, v.depth + 1, false⟩, outer := outer }

def readDecimal (f : Flags) (cs : List Char) : Except Fault (Option Nat × List Char) :=
  let cs := cs.dropWhile Text.isBlank
  let rec digits : Bool → List Char → List Char × List Char
    | true, c :: cs => digits (c ≠ '\n') cs
    | false, c :: cs =>
      if c.isDigit then
        let (ds, rest) := digits false cs
        (c :: ds, rest)
      else if f.spaced && Text.isBlank c then digits false cs
      else if f.spaced && c = '#' then digits true cs
      else ([], c :: cs)
    | _, [] => ([], [])
  let (ds, rest) := digits false cs
  let n := ds.foldl (fun n d => n * 10 + (d.toNat - 0x30)) 0
  let rest := f.skip (rest.dropWhile Text.isBlank)
  if ds = [] then .ok (none, rest)
  else if n < 0x100000000 then .ok (some n, rest)
  else .error .badCount

def readCount (f : Flags) (cs : List Char) : Except Fault ((Nat × Option Nat) × List Char) := do
  let (low, cs) ← readDecimal f (f.skip cs)
  match low, cs with
  | some low, '\x7d' :: rest => return ((low, some low), rest)
  | some low, ',' :: rest =>
    match f.skip rest with
    | '\x7d' :: rest => return ((low, none), rest)
    | rest => do
      let (high, cs) ← readDecimal f rest
      match high, cs with
      | some high, '\x7d' :: rest =>
        if low ≤ high then return ((low, some high), rest) else .error .badCount
      | _, _ => .error .badCount
  | _, _ => .error .badCount

def dropLazy (cs : List Char) : List Char :=
  match cs with
  | '?' :: rest => rest
  | cs => cs

/-- The expression of an atom. Without Unicode neither a dot nor a byte above ASCII is text. -/
def atomExpr (f : Flags) : Atom → Except Fault Expr
  | .set s => .ok (.set s)
  | .look l => .ok (.look l)
  | .char c byte =>
    if !f.unicode && byte && 0x80 ≤ c.toNat then .error .belowCharacters
    else .ok (.set (f.finish false (.one c)))
  | .any =>
    if !f.unicode then .error .belowCharacters
    else if f.dotAll then .ok (.set (.compl .none))
    else if f.anyLineEnd then .ok (.set (.compl (.union (.one '\n') (.one '\r'))))
    else .ok (.set (.compl (.one '\n')))

def plainAtom (f : Flags) (c : Char) : Atom :=
  match c, f.multiLine, f.anyLineEnd with
  | '.', _, _ => .any
  | '^', false, _ => .look .start
  | '^', true, false => .look .lineStart
  | '^', true, true => .look .anyLineStart
  | '$', false, _ => .look .stop
  | '$', true, false => .look .lineStop
  | '$', true, true => .look .anyLineStop
  | c, _, _ => .char c false

def Reading.step (r : Reading) (c : Char) (cs : List Char) :
    Except Fault (Reading × List Char) := do
  let f := r.flags
  let repeated (min : Nat) (max : Option Nat) (rest : List Char) := do
    return ({ r with group := ← r.group.repeated min max }, rest)
  match c with
  | '(' => r.openGroup cs
  | ')' => return (← r.closeGroup, cs)
  | '|' => return ({ r with group := r.group.nextBranch }, cs)
  | '[' => do
    let (s, rest) ← readClass f (c :: cs)
    return ({ r with group := r.group.push ⟨.set s.val, s.depth, false⟩ }, rest)
  | '?' => repeated 0 (some 1) (dropLazy cs)
  | '*' => repeated 0 none (dropLazy cs)
  | '+' => repeated 1 none (dropLazy cs)
  | '\x7b' => do
    discard <| r.group.repeated 0 none
    let ((min, max), rest) ← readCount f cs
    repeated min max (dropLazy (f.skip rest))
  | c => do
    let (a, rest) ← if c = '\\' then readEscape f cs else pure (plainAtom f c, cs)
    return ({ r with group := r.group.push ⟨← atomExpr f a, 0, false⟩ }, rest)

def Reading.run : Nat → Reading → List Char → Except Fault Reading
  | 0, r, _ => .ok r
  | n + 1, r, cs =>
    match r.flags.skip cs with
    | [] => .ok r
    | c :: cs => do
      let (r, rest) ← r.step c cs
      Reading.run n r rest

def maxDepth : Nat := 250

def read (pattern : String) : Except Fault Expr := do
  let cs := pattern.toList
  let r ← Reading.run (cs.length + 1) {} cs
  if r.outer ≠ [] then .error .unclosedGroup
  else
    let v := r.group.value
    if maxDepth < v.depth then .error .tooDeep else return v.val

end Glean.Pattern
