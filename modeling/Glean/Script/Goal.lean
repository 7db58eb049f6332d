import Glean.Script.Gap

set_option autoImplicit false

/-!
# Goals

What a script is made of. The grammar is a family of parsers, one for each goal, that refer to one
another by goal. Expressions and the patterns that values are taken apart with look alike up to
their end, so an expression is read without knowing which of the two it is, and its shape tells
what it can be.
-/
namespace Glean.Script

/-- What a phrase that reads like an expression can be. A target may be given a value, an updatable
one also one that is combined with its own. -/
structure Shape where
  expression : Bool := true
  primary : Bool := false
  isNew : Bool := false
  target : Bool := false
  updatable : Bool := false
  enclosed : Bool := false
  hasDefault : Bool := false
  deriving Inhabited

def Shape.plain : Shape := {}

def Shape.primaryOnly : Shape := { primary := true }

def Shape.place : Shape := { primary := true, target := true, updatable := true }

def Shape.isPattern (s : Shape) : Bool := s.target || s.hasDefault

/-- Whether a statement can end behind an expression, whether `in` does not belong to it, and
whether no result type is looked for in front of a colon. -/
structure Place where
  semicolon : Bool := false
  noIn : Bool := false
  noResult : Bool := false

inductive Goal
  | expression (p : Place)
  | expressions (p : Place)
  | operand (p : Place)
  | creation (p : Place)
  | statement
  | block (operand : Bool)
  | signature (f : Follow)
  | classBody
  | element
  | type (f : Follow)
  | result (f : Follow)
  | typeArguments (f : Follow)
  | typeParameters

abbrev Parts := Goal → Parser Shape

namespace Parser

def behind (p : Place) : Parser Ahead := next { semicolon := p.semicolon, operand := true }

def value (parts : Parts) (p : Place) : Parser Unit := do
  let s ← parts (.expression p)
  require s.expression

def values (parts : Parts) (p : Place) : Parser Unit := do
  let s ← parts (.expressions p)
  require s.expression

def upcomingChar : Parser Char := do return (← upcoming).headD '\x00'

def comes (s : String) : Parser Bool := do return s.toList.isPrefixOf (← upcoming)

def hasSign (s : String) : Parser Bool := do
  if ← comes s then
    pass s.length
    return true
  else return false

def hasTypedSign (s : String) : Parser Bool := do
  if (← dialect).hasTypes then hasSign s else return false

def hasKeyword (s : String) : Parser Bool := do
  if (← word) = s then
    pass s.length
    return true
  else return false

def commaList (p : Parser Unit) : Parser Unit :=
  iterate (fun _ => do
    p
    return ((), ← hasSign ",")) ()

def nextLiteral (m : Measure) : Parser Unit := do
  let _ ← upcoming
  passLiteral m

def string : Parser Unit := nextLiteral .string

def number : Parser Unit := do
  let n := numberLength (← upcoming)
  require (0 < n)
  pass n

def privateName : Parser Unit := do
  let text ← upcoming
  require (text.head? = some '#')
  let n := wordLength (text.drop 1)
  require (0 < n)
  pass (n + 1)

/-- A template. Gaps in it belong to its text. -/
def template (parts : Parts) : Parser Unit := do
  sign "`"
  iterate (fun _ => do
    let n := templateLength (← rest)
    if 0 < n then pass n
    match ← rest with
    | '`' :: _ =>
      pass 1
      return ((), false)
    | '$' :: '\x7b' :: _ =>
      pass 2
      values parts {}
      sign "\x7d"
      return ((), true)
    | text =>
      let n := escapeLength text
      require (0 < n)
      pass n
      return ((), true)) ()

/-- The items of a list up to its closing sign, with commas between them. An item may be missing. -/
def items {σ : Type} (close : Char) (missing : σ → σ) (item : σ → Parser σ) (s : σ) : Parser σ :=
  iterate (fun s => do
    let c ← upcomingChar
    if c = close then
      pass 1
      return (s, false)
    else if c = ',' then
      pass 1
      return (missing s, true)
    else
      let s ← item s
      if ← hasSign "," then return (s, true)
      else
        require ((← upcomingChar) = close)
        pass 1
        return (s, false)) s

end Parser

end Glean.Script
