import Glean.Pattern.Reader.Escape

set_option autoImplicit false

/-!
# Bracketed classes

A class is a union of characters, ranges, named sets and classes inside it. Unions are joined by
`&&`, `--` and `~~`, from the left. The first `]`, and every `-` before any other member, stands for
itself.
-/
namespace Glean.Pattern

inductive SetOp
  | inter
  | diff
  | symmDiff
  deriving DecidableEq, Repr

def SetOp.apply : SetOp → CharSet → CharSet → CharSet
  | inter => .inter
  | diff => .diff
  | symmDiff => .symmDiff

structure Nested (α : Type) where
  val : α
  depth : Nat
  deriving Repr

/-- A class whose closing bracket has not been read: the members since the last joining sign, and
what stands before that sign. -/
structure OpenClass where
  negated : Bool
  members : List (Nested CharSet) := []
  joined : Option (SetOp × Nested CharSet) := none
  deriving Repr

namespace OpenClass

def add (k : OpenClass) (s : CharSet) (depth : Nat) : OpenClass :=
  { k with members := ⟨s, depth⟩ :: k.members }

def union (k : OpenClass) : Nested CharSet :=
  match k.members with
  | [] => ⟨.none, 0⟩
  | [m] => m
  | ms => ⟨ms.foldl (fun s m => .union m.val s) .none,
      (ms.foldl (fun d m => max d m.depth) 0) + 1⟩

def value (f : Flags) (k : OpenClass) : Nested CharSet :=
  match k.joined with
  | none => k.union
  | some (op, left) =>
    let right := k.union
    ⟨op.apply (f.finish false left.val) (f.finish false right.val),
      max left.depth right.depth + 1⟩

def joinBy (f : Flags) (op : SetOp) (k : OpenClass) : OpenClass :=
  { k with members := [], joined := some (op, k.value f) }

def close (f : Flags) (k : OpenClass) : Except Fault (Nested CharSet) :=
  let v := k.value f
  let s := f.finish k.negated v.val
  if !f.unicode && !s.isAscii then .error .belowCharacters else .ok ⟨s, v.depth + 1⟩

end OpenClass

def leadingHyphens (f : Flags) : Nat → OpenClass → List Char → Except Fault (OpenClass × List Char)
  | 0, _, _ => .error .unclosedClass
  | _ + 1, _, [] => .error .unclosedClass
  | n + 1, k, c :: cs =>
    if c = '-' then leadingHyphens f n (k.add (.one '-') 0) (f.skip cs) else .ok (k, c :: cs)

def openClass (f : Flags) (cs : List Char) : Except Fault (OpenClass × List Char) := do
  let cs := f.behind cs
  let (negated, cs) := match cs with
    | '^' :: rest => (true, f.skip rest)
    | cs => (false, cs)
  let (k, cs) ← leadingHyphens f (cs.length + 1) ⟨negated, [], none⟩ cs
  match k.members, cs with
  | [], ']' :: rest =>
    match f.skip rest with
    | [] => .error .unclosedClass
    | rest => .ok (k.add (.one ']') 0, rest)
  | _, cs => .ok (k, cs)

/-- The character behind the first one, blanks aside. In a comment any character but its end
counts. -/
def peek? (f : Flags) (cs : List Char) : Option Char :=
  if f.spaced then (cs.tail.dropWhile fun c => Text.isBlank c || c = '#').head? else cs.tail.head?

def classAtom (f : Flags) (cs : List Char) : Except Fault (Atom × List Char) :=
  match cs with
  | [] => .error .unclosedClass
  | '\\' :: rest => readEscape f rest
  | c :: rest => .ok (.char c false, rest)

def classChar (f : Flags) (c : Char) : Except Fault Char :=
  if f.unicode ∨ c.toNat < 0x80 then .ok c else .error .belowCharacters

def memberSet (f : Flags) : Atom → Except Fault CharSet
  | .char c _ => (classChar f c).map .one
  | .set s => .ok s
  | _ => .error .badClassMember

def rangeEnd (f : Flags) : Atom → Except Fault Char
  | .char c _ => classChar f c
  | _ => .error .badClassMember

def classMember (f : Flags) (cs : List Char) : Except Fault (CharSet × List Char) := do
  let (first, cs) ← classAtom f cs
  match f.skip cs with
  | [] => .error .unclosedClass
  | c :: cs =>
    if c ≠ '-' ∨ peek? f (c :: cs) = some ']' ∨ peek? f (c :: cs) = some '-' then
      return (← memberSet f first, c :: cs)
    else
      let (last, cs) ← classAtom f (f.skip cs)
      let lo ← rangeEnd f first
      let hi ← rangeEnd f last
      if lo ≤ hi then return (.range lo hi, cs) else .error .reversedRange

def posixClass? (cs : List Char) : Option (CharSet × Bool × List Char) :=
  match cs with
  | '[' :: ':' :: cs =>
    let (negated, cs) := match cs with
      | '^' :: rest => (true, rest)
      | cs => (false, cs)
    let name := cs.takeWhile (· ≠ ':')
    match cs.drop name.length with
    | ':' :: ']' :: rest => (Unicode.posix? name).map (·, negated, rest)
    | _ => none
  | _ => none

def readClassFrom (f : Flags) :
    Nat → OpenClass → List OpenClass → List Char → Except Fault (Nested CharSet × List Char)
  | 0, _, _, _ => .error .unclosedClass
  | n + 1, k, outer, cs =>
    match f.skip cs with
    | [] => .error .unclosedClass
    | '[' :: rest =>
      match posixClass? ('[' :: rest) with
      | some (s, negated, rest) =>
        if !f.unicode && negated then .error .belowCharacters
        else readClassFrom f n (k.add (f.finish negated s) 0) outer rest
      | none => do
        let (inner, rest) ← openClass f ('[' :: rest)
        readClassFrom f n inner (k :: outer) rest
    | ']' :: rest => do
      let s ← k.close f
      match outer with
      | [] => .ok (s, rest)
      | k :: outer => readClassFrom f n (k.add s.val s.depth) outer rest
    | '&' :: '&' :: rest => readClassFrom f n (k.joinBy f .inter) outer rest
    | '-' :: '-' :: rest => readClassFrom f n (k.joinBy f .diff) outer rest
    | '~' :: '~' :: rest => readClassFrom f n (k.joinBy f .symmDiff) outer rest
    | cs => do
      let (s, rest) ← classMember f cs
      readClassFrom f n (k.add s 0) outer rest

def readClass (f : Flags) (cs : List Char) : Except Fault (Nested CharSet × List Char) := do
  let (k, rest) ← openClass f cs
  readClassFrom f (cs.length + 1) k [] rest

end Glean.Pattern
