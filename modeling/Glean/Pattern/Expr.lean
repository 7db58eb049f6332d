import Glean.Pattern.Named

set_option autoImplicit false

/-!
# Patterns

A pattern is an expression over sets of characters and conditions on the place between two
characters. Matching marks places of a text: from the places where a match may begin, an
expression reaches those where it may end. A pattern occurs in a text if it reaches any place
when all are marked.
-/
namespace Glean.Pattern

inductive Look
  | start
  | stop
  | lineStart
  | lineStop
  | anyLineStart
  | anyLineStop
  | boundary (ascii : Bool)
  | inside (ascii : Bool)
  | wordStart (ascii : Bool)
  | wordStop (ascii : Bool)
  | wordStartHalf (ascii : Bool)
  | wordStopHalf (ascii : Bool)
  deriving DecidableEq, Repr

inductive Expr
  | empty
  | set (s : CharSet)
  | look (l : Look)
  | seq (a b : Expr)
  | alt (a b : Expr)
  | loop (e : Expr) (min : Nat) (max : Option Nat)
  deriving Repr, Inhabited

def onWord (ascii : Bool) : Option Char → Bool
  | none => false
  | some c => (if ascii then Unicode.asciiWord else Unicode.word).contains c

def Look.holds (l : Look) (before after : Option Char) : Bool :=
  match l with
  | start => before = none
  | stop => after = none
  | lineStart => before = none || before = some '\n'
  | lineStop => after = none || after = some '\n'
  | anyLineStart =>
    before = none || before = some '\n' || (before = some '\r' && after ≠ some '\n')
  | anyLineStop =>
    after = none || after = some '\r' || (after = some '\n' && before ≠ some '\r')
  | boundary a => onWord a before != onWord a after
  | inside a => onWord a before == onWord a after
  | wordStart a => !onWord a before && onWord a after
  | wordStop a => onWord a before && !onWord a after
  | wordStartHalf a => !onWord a before
  | wordStopHalf a => !onWord a after

/-- The marks on the places of a text, from the front; there is one place more than characters. -/
abbrev Marks := List Bool

def advance (s : CharSet) : List Char → Marks → Marks
  | c :: text, m :: marks =>
    (m && s.contains c) :: advance s text marks
  | _, _ => []

def restrict (l : Look) : Option Char → List Char → Marks → Marks
  | before, c :: text, m :: marks =>
    (m && l.holds before (some c)) :: restrict l (some c) text marks
  | before, [], m :: _ => [m && l.holds before none]
  | _, _, [] => []

def join (a b : Marks) : Marks := List.zipWith or a b

/-- Applies a step `n` times, or until it changes nothing. -/
def iterate (step : Marks → Marks) : Nat → Marks → Marks
  | 0, marks => marks
  | n + 1, marks =>
    let next := step marks
    if next = marks then marks else iterate step n next

def Expr.reach (text : List Char) : Expr → Marks → Marks
  | empty, marks => marks
  | set s, marks => false :: advance s text marks
  | look l, marks => restrict l none text marks
  | seq a b, marks => b.reach text (a.reach text marks)
  | alt a b, marks => join (a.reach text marks) (b.reach text marks)
  | loop e min max, marks =>
    let more := match max with
      | some max => Nat.min (max - min) (text.length + 1)
      | none => text.length + 1
    iterate (fun m => join m (e.reach text m)) more (iterate (e.reach text) min marks)

def Expr.occursIn (e : Expr) (text : List Char) : Bool :=
  (e.reach text (List.replicate (text.length + 1) true)).any id

end Glean.Pattern
