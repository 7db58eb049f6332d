import Glean.Lines

set_option autoImplicit false

/-!
# Import calls

Before a script is read, every stretch `import(` … `)` up to the first closing parenthesis, with
something between, is replaced by `{}` and by as many line feeds as it held. What is kept stays on
its line.
-/
namespace Glean.ImportCall

def opening : List Char := "import(".toList

def lengthAt? (text : List Char) : Option Nat :=
  if opening.isPrefixOf text then
    let inside := (text.drop opening.length).takeWhile (· ≠ ')')
    if inside ≠ [] ∧ opening.length + inside.length < text.length then
      some (opening.length + inside.length + 1)
    else none
  else none

/-- A part of a script: a character that is kept, or a whole call. -/
inductive Segment
  | kept (c : Char)
  | call (text : List Char)
  deriving DecidableEq, Repr

namespace Segment

def source : Segment → List Char
  | kept c => [c]
  | call text => text

def image : Segment → List Char
  | kept c => [c]
  | call text => '{' :: '}' :: List.replicate (Lines.breaks text) '\n'

def isCall : Segment → Bool
  | kept _ => false
  | call _ => true

end Segment

/-- Splits a text behind its first `skip` characters at the leftmost calls. -/
def segmentsFrom : Nat → List Char → List Segment
  | _, [] => []
  | skip + 1, _ :: text => segmentsFrom skip text
  | 0, c :: text =>
    match lengthAt? (c :: text) with
    | some n => .call ((c :: text).take n) :: segmentsFrom (n - 1) text
    | none => .kept c :: segmentsFrom 0 text

def segments (text : List Char) : List Segment := segmentsFrom 0 text

def neutralize (text : List Char) : List Char := (segments text).flatMap Segment.image

def occursIn (text : List Char) : Bool := (segments text).any Segment.isCall

end Glean.ImportCall
