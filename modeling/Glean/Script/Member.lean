import Glean.Script.Bracket

set_option autoImplicit false

/-!
# Members

The members of objects and classes. A word like `get` belongs to the name behind it unless it is
itself the name.
-/
namespace Glean.Script
namespace Parser

def computedName (parts : Parts) : Parser Unit := do
  sign "["
  value parts {}
  sign "]"

def memberName (parts : Parts) : Parser Unit := do
  let c ← upcomingChar
  if isQuote c then string
  else if c = '[' then computedName parts
  else if c = '#' then privateName
  else if c.isDigit || c = '.' then number
  else anyWord

def beginsName (c : Char) : Bool :=
  isWordChar c || c = '\\' || isQuote c || c = '[' || c = '#' || c = '.'

def method (parts : Parts) : Parser Unit := do
  let _ ← parts (.signature {})
  let _ ← parts (.block false)

def accessWords : List String := ["public", "private", "protected"]

/-- What stands in front of a method's name. `names` are the words that may, in order. -/
def memberHead (names : List String) (f : Follow) : Parser (List String) := do
  let (_, found) ← iterate (fun ((left, found) : List String × List String) => do
    let w ← word
    let isHead ← tries (peek do
      require (left.contains w)
      pass w.length
      match ← next f with
      | .semicolon => fail
      | _ =>
        let c ← upcomingChar
        require (beginsName c || (c = '*' && (w = "async" || w = "static"))))
    if isHead then
      anyWord
      let left := if w = "get" || w = "set" then [] else (left.dropWhile (· ≠ w)).drop 1
      let left := left.filter fun v => !(accessWords.contains w && accessWords.contains v)
      return ((left, found ++ [w]), true)
    else return ((left, found), false)) (names, [])
  return found

def methodWords : List String := ["static", "async", "get", "set"]

def typedMethodWords : List String :=
  accessWords ++ ["static", "override", "readonly", "async", "get", "set"]

def propertyValue (parts : Parts) (s : Shape) : Parser Shape := do
  sign ":"
  if ← comes "..." then
    let e ← spread parts
    return { s with expression := false, target := s.target && e.target }
  else
    let e ← parts (.expression {})
    return { s with
      expression := s.expression && e.expression
      target := s.target && e.isPattern }

/-- What begins the parameters of a method, or what stands between its name and them. -/
def beginsMethod : Parser Bool := do
  let c ← upcomingChar
  return c = '(' || ((← dialect).hasTypes && (c = '<' || c = '?'))

def methodOf (parts : Parts) (s : Shape) : Parser Shape := do
  if (← dialect).hasTypes then let _ ← hasSign "?"
  method parts
  return { s with target := false }

def property (parts : Parts) (s : Shape) : Parser Shape := do
  let c ← upcomingChar
  if ← comes "..." then
    let e ← spread parts
    return { s with
      expression := s.expression && e.expression
      target := s.target && e.target }
  else if c = '\x7b' then part
  else if c = '[' then named <|> part
  else named
where
  part : Parser Shape := do
    let e ← parts (.operand {})
    require e.hasDefault
    return { s with expression := false }
  named : Parser Shape := do
    if (← upcomingChar) = '@' then many (decorator parts)
    let isTyped := (← dialect).hasTypes
    let head ← memberHead (if isTyped then typedMethodWords else methodWords) {}
    let isGenerator ← hasSign "*"
    let isWord := (← word) ≠ ""
    memberName parts
    if ← beginsMethod then methodOf parts s
    else
      require (head.isEmpty && !isGenerator)
      match ← upcomingChar with
      | ':' => propertyValue parts s
      | '=' =>
        require isWord
        sign "="
        value parts {}
        return { s with expression := false }
      | _ =>
        require isWord
        return s

def object (parts : Parts) : Parser Shape := do
  sign "\x7b"
  let s ← items '\x7d' id (property parts) { target := true }
  require (s.expression || s.target)
  return { s with primary := s.expression }

def staticBlock (parts : Parts) : Parser Unit := do
  keyword "static"
  softEnd false
  let _ ← parts (.block false)

def templateElement : Parser Unit := do
  sign "<template>"
  iterate (fun _ => do
    let text ← rest
    let blank := spanLength isSpace text
    let line := spanLength (· ≠ '\n') (text.drop blank)
    require (0 < line)
    pass (blank + line)
    return ((), (text.drop blank).take line ≠ "</template>".toList)) ()

def memberFollow : Follow := { semicolon := true }

def plainMember (parts : Parts) : Parser Unit := do
  many (decorator parts)
  let head ← memberHead methodWords memberFollow
  let isGenerator ← hasSign "*"
  memberName parts
  match ← next memberFollow with
  | .semicolon =>
    require (isField head isGenerator)
    notice none
  | _ =>
    match ← upcomingChar with
    | '(' =>
      method parts
      let _ ← hasSign ";"
    | '=' =>
      require (isField head isGenerator)
      sign "="
      value parts { semicolon := true }
      semicolon true
    | _ =>
      require (isField head isGenerator)
      sign ";"
where
  isField (head : List String) (isGenerator : Bool) : Bool :=
    !isGenerator && (head.isEmpty || head = ["static"])

def plainClassBody (parts : Parts) : Parser Unit := do
  sign "\x7b"
  many do
    if ← hasSign ";" then return ()
    else if ← comes "<template>" then templateElement
    else staticBlock parts <|> plainMember parts
  sign "\x7d"

end Parser
end Glean.Script
