import Glean.Script.Goal

set_option autoImplicit false

/-!
# Brackets

Lists in brackets and in parentheses. What a list can be is known behind it: an array or a pattern,
an expression, arguments or parameters.
-/
namespace Glean.Script
namespace Parser

def spread (parts : Parts) : Parser Shape := do
  sign "..."
  parts (.expression {})

def item (parts : Parts) : Parser Shape := do
  if ← comes "..." then spread parts else parts (.expression {})

def array (parts : Parts) : Parser Shape := do
  sign "["
  let add (s : Shape) : Parser Shape := do
    let isRest ← comes "..."
    let e ← item parts
    return { s with
      expression := s.expression && e.expression
      target := s.target && (if isRest then e.target else e.isPattern) }
  let s ← items ']' id add { target := true }
  require (s.expression || s.target)
  return { s with primary := s.expression }

def arguments (parts : Parts) : Parser Unit := do
  sign "("
  items ')' id (fun _ => do require (← item parts).expression) ()

def types (parts : Parts) : Parser Unit := do
  if (← dialect).hasTypes then optional (do let _ ← parts (.typeArguments {}))

def decorator (parts : Parts) : Parser Unit := do
  sign "@"
  let path : Parser Unit := do
    anyWord
    many do
      sign "."
      anyWord
    optional do
      types parts
      arguments parts
  if ← hasTypedSign "(" then
    path
    sign ")"
  else path

/-- What a list in parentheses can be. -/
structure Enclosed where
  count : Nat := 0
  isOpen : Bool := true
  hasType : Bool := false
  expression : Bool := true
  arguments : Bool := true
  parameters : Bool := true
  deriving Inhabited

def parameterModifiers : List String := ["public", "private", "protected", "override", "readonly"]

/-- Whether a word that comes next is an attribute of what follows it. -/
def modifies (names : List String) (begins : Char → Bool) : Parser Bool := do
  let w ← word
  if names.contains w then
    (do
      let (c, w) ← peek do
        pass w.length
        return (← upcomingChar, ← word)
      return begins c && !(["as", "satisfies", "in", "instanceof", "is"].contains w)) <|>
      return false
  else return false

def beginsPattern (c : Char) : Bool := isWordChar c || c = '\x7b' || c = '.'

def parameterHead (parts : Parts) : Parser Bool := do
  if (← dialect).hasTypes then
    iterate (fun (found : Bool) => do
      if ← comes "@" then
        decorator parts
        return (true, true)
      else if ← modifies parameterModifiers beginsPattern then
        anyWord
        return (true, true)
      else return (found, false)) false
  else return false

def parameterTail (parts : Parts) (hasDefault : Bool) (s : Enclosed) : Parser Enclosed := do
  if (← dialect).hasTypes then
    let isOptional ← hasSign "?"
    let isTyped ← hasSign ":"
    if isTyped then let _ ← parts (.type {})
    let hasValue ← if hasDefault then pure false else hasSign "="
    if hasValue then value parts {}
    return { s with
      hasType := s.hasType || isTyped
      expression := s.expression && !isOptional && !hasValue
      arguments := s.arguments && !isOptional && !isTyped && !hasValue }
  else return s

def comesThis : Parser Bool :=
  tries (peek do
    require (← dialect).hasTypes
    keyword "this"
    let c ← upcomingChar
    require (":,)?=".toList.contains c))

def enclosedItem (parts : Parts) (s : Enclosed) : Parser Enclosed := do
  let hasHead ← parameterHead parts
  let isThis ← comesThis
  let isRest ← comes "..."
  let e ← item parts
  let s := { s with
    count := s.count + 1
    isOpen := false
    expression := s.expression && e.expression && !hasHead && !isRest
    arguments := s.arguments && e.expression && !hasHead
    parameters := s.parameters && ((if isRest then e.target else e.isPattern) || isThis) }
  require (s.expression || s.arguments || s.parameters)
  parameterTail parts e.hasDefault s

def enclosed (parts : Parts) : Parser Enclosed := do
  sign "("
  let s ← iterate (fun s => do
    let c ← upcomingChar
    if c = ')' then
      pass 1
      return (s, false)
    else if c = ',' then
      pass 1
      return ({ s with expression := false, parameters := false }, true)
    else
      let s ← enclosedItem parts s
      if ← hasSign "," then return ({ s with isOpen := true }, true)
      else
        sign ")"
        return (s, false)) ({} : Enclosed)
  return { s with expression := s.expression && !s.isOpen && !(s.hasType && 1 < s.count) }

def parameters (parts : Parts) : Parser Unit := do
  require (← enclosed parts).parameters

end Parser
end Glean.Script
