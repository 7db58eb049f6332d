import Glean.Script.Element
import Glean.Script.Member

set_option autoImplicit false

/-!
# Expressions

Operands with what stands in front of and behind them, and the operators between them. How tightly
an operator binds is of no matter to what is an expression, with one exception: a value is assigned
to the operand that stands in front of the sign.
-/
namespace Glean.Script

/-- The operators between two operands, those that begin with others in front. -/
def binaryOperators : List String :=
  ["===", "!==", ">>>", "**", "&&", "||", "??", "==", "!=", "<=", ">=", "<<", ">>", "&", "^", "|",
    "+", "-", "*", "/", "%", "<", ">"]

def updateOperators : List String :=
  [">>>=", "**=", "&&=", "||=", "??=", ">>=", "<<=", "+=", "-=", "*=", "/=", "%=", "^=", "&=", "|="]

def firstLength (signs : List String) (text : List Char) : Nat :=
  ((signs.map (lengthOf · text)).find? (0 < ·)).getD 0

def assigns : List Char → Bool
  | '=' :: '=' :: _ => false
  | '=' :: '>' :: _ => false
  | '=' :: _ => true
  | _ => false

namespace Parser

/-- The words that are no labels, since a statement or an operand begins with them. -/
def reserved : List String :=
  ["var", "const", "function", "class", "import", "if", "for", "while", "do", "switch", "try",
    "with", "break", "continue", "return", "throw", "debugger", "this", "super", "true",
    "false", "null", "undefined", "typeof", "void", "delete", "await", "yield"]

def isReserved (w : String) : Parser Bool := do
  return reserved.contains w || w = (if (← dialect).hasTypes then "using" else "new")

/-- Whether an object cannot begin here, but statements in braces can: behind the brace there is
nothing but a name, which may be given a value, or there is a word that a statement begins with. -/
def comesBlock (parts : Parts) : Parser Bool :=
  tries (peek do
    sign "\x7b"
    let w ← word
    require (w ≠ "")
    if !(← isReserved w) then
      pass w.length
      let _ ← next { semicolon := true, operand := true }
      if assigns (← rest) then
        sign "="
        value parts { semicolon := true }
      sign "\x7d")

def operatorWords : Parser (List String) := do
  let words := ["in", "instanceof"]
  return if (← dialect).hasTypes then words ++ ["as", "satisfies"] else words

def arrowBody (parts : Parts) (p : Place) : Parser Shape := do
  sign "=>"
  if ← comes "\x7b" then
    (do
      let _ ← parts (.block true)
      require !(assigns (← rest))
      return .primaryOnly) <|>
    (do
      require !(← comesBlock parts)
      value parts p
      return .primaryOnly)
  else
    value parts p
    return .primaryOnly

def arrow? (parts : Parts) (p : Place) : Parser (Option Shape) := do
  if ← comes "=>" then return some (← arrowBody parts p)
  else if (← dialect).hasTypes && !p.noResult && (← comes ":") then
    (do
      let _ ← parts (.result {})
      return some (← arrowBody parts p)) <|>
    return none
  else return none

def group (parts : Parts) (p : Place) : Parser Shape := do
  let s ← enclosed parts
  let _ ← next { semicolon := p.semicolon && s.expression, operand := s.expression }
  let function ← if s.parameters then arrow? parts p else pure none
  match function with
  | some f => return f
  | none =>
    require s.expression
    return { primary := true, enclosed := true }

def function (parts : Parts) : Parser Bool := do
  keyword "function"
  let _ ← hasSign "*"
  let isNamed ← tries anyWord
  let _ ← parts (.signature {})
  let _ ← parts (.block true)
  return isNamed

def async (parts : Parts) (p : Place) : Parser Shape := do
  keyword "async"
  match ← behind p with
  | .token =>
    let w ← word
    if w = "function" then
      let _ ← function parts
      return .primaryOnly
    else if ← comes "(" then
      let s ← enclosed parts
      let _ ← next { semicolon := p.semicolon && s.arguments, operand := s.arguments }
      let function ← if s.parameters then arrow? parts p else pure none
      match function with
      | some f => return f
      | none =>
        require s.arguments
        return .primaryOnly
    else if ← comes "=>" then arrowBody parts p
    else if w = "" || w = "in" || w = "instanceof" then typedArrow <|> return .place
    else
      (do
        pass w.length
        arrowBody parts p) <|>
      return .place
  | _ => return .place
where
  typedArrow : Parser Shape := do
    require ((← dialect).hasTypes && (← comes "<"))
    let _ ← parts .typeParameters
    let s ← enclosed parts
    require s.parameters
    match ← arrow? parts p with
    | some f => return f
    | none => fail

def classPhrase (parts : Parts) : Parser Bool := do
  keyword "class"
  let isTyped := (← dialect).hasTypes
  let w ← word
  let isNamed := w ≠ "" && w ≠ "extends" && !(isTyped && w = "implements")
  if isNamed then pass w.length
  if isTyped then
    optional (do let _ ← parts .typeParameters)
    if ← hasKeyword "extends" then commaList heir
    if ← hasKeyword "implements" then commaList (do let _ ← parts (.type {}))
  else if ← hasKeyword "extends" then value parts {}
  let _ ← parts .classBody
  return isNamed
where
  heir : Parser Unit := do
    value parts {}
    types parts

def yieldOperand (parts : Parts) (p : Place) : Parser Shape := do
  keyword "yield"
  match ← behind p with
  | .token =>
    if ← comes "**" then return .plain
    else if ← hasSign "*" then value parts p
    else if ← beginsValue then value parts p
  | _ => return .plain
  return .plain
where
  beginsValue : Parser Bool := do
    let text ← upcoming
    let w ← word
    if w ≠ "" then return !(← operatorWords).contains w
    else
      match text with
      | '!' :: '=' :: _ => return false
      | '.' :: c :: _ => return c.isDigit
      | '<' :: c :: _ => return c ≠ '<' && c ≠ '='
      | c :: _ => return c.isDigit || "+-/<([`!~\x7b'\"#@\\".toList.contains c
      | [] => return false

def creationTail (parts : Parts) (p : Place) (s : Shape) : Parser Shape :=
  iterate (fun s => do
    match ← behind p with
    | .token =>
      match ← upcoming with
      | '?' :: '.' :: _ =>
        pass 2
        match ← upcomingChar with
        | '(' =>
          require s.primary
          arguments parts
        | '[' => subscript
        | _ => name
        return (.primaryOnly, true)
      | '.' :: _ =>
        pass 1
        name
        return (.primaryOnly, true)
      | '[' :: _ =>
        subscript
        return (.primaryOnly, true)
      | '`' :: _ =>
        require (s.primary || s.isNew)
        template parts
        return (.primaryOnly, true)
      | '!' :: c :: _ =>
        if (← dialect).hasTypes && c ≠ '=' then
          pass 1
          return (.primaryOnly, true)
        else return (s, false)
      | _ => return (s, false)
    | _ => return (s, false)) s
where
  name : Parser Unit := privateName <|> anyWord
  subscript : Parser Unit := do
    sign "["
    values parts {}
    sign "]"

def nameOperand (parts : Parts) (p : Place) : Parser Shape := do
  anyWord
  let _ ← behind p
  if ← comes "=>" then arrowBody parts p else return .place

/-- Whether `new` is a name here, since what is behind it can follow an operand and is none. -/
def comesNewAsName (p : Place) : Parser Bool :=
  tries (peek do
    keyword "new"
    match ← behind p with
    | .token =>
      let text ← rest
      let n := firstLength ["+=", "-=", "<=", "<<", "!="] text
      require (0 < n || text.head?.all ";,)]\x7d:=*%&|^>?".toList.contains ||
        (← operatorWords).contains (← word))
    | _ => return ())

def moduleBody (parts : Parts) (p : Place) : Parser Unit := do
  string <|> do
    anyWord
    many do
      match ← behind p with
      | .token =>
        sign "."
        anyWord
      | _ => fail
  match ← behind p with
  | .token => if ← comes "\x7b" then let _ ← parts (.block p.semicolon)
  | _ => return ()

def namespaceOperand (parts : Parts) (p : Place) : Parser Shape :=
  (do
    keyword "namespace"
    match ← behind p with
    | .token =>
      require !(← operatorWords).contains (← word)
      moduleBody parts p
      return .plain
    | _ => fail) <|>
  nameOperand parts p

def wordOperand (parts : Parts) (p : Place) (w : String) : Parser Shape := do
  let isTyped := (← dialect).hasTypes
  match w with
  | "" | "typeof" | "void" | "delete" | "await" | "yield" => fail
  | "using" => if isTyped then fail else nameOperand parts p
  | "function" =>
    let _ ← function parts
    return .primaryOnly
  | "async" => async parts p
  | "class" =>
    let _ ← classPhrase parts
    return .primaryOnly
  | "new" =>
    if isTyped && (← comesNewAsName p) then nameOperand parts p else parts (.creation p)
  | "this" | "super" | "true" | "false" | "null" =>
    pass w.length
    return .primaryOnly
  | "undefined" =>
    pass w.length
    return { primary := true, target := true }
  | "import" =>
    pass w.length
    match ← upcomingChar with
    | '(' =>
      arguments parts
      return .primaryOnly
    | '?' =>
      sign "?."
      privateName <|> anyWord
      return .place
    | '<' =>
      require isTyped
      let _ ← parts (.typeArguments { operand := true })
      arguments parts
      return .primaryOnly
    | _ =>
      sign "."
      keyword "meta"
      return .primaryOnly
  | "namespace" => if isTyped then namespaceOperand parts p else nameOperand parts p
  | _ => nameOperand parts p

def primary (parts : Parts) (p : Place) : Parser Shape := do
  let text ← upcoming
  match text with
  | '(' :: _ => group parts p
  | '[' :: _ => array parts
  | '\x7b' :: _ => object parts
  | '`' :: _ =>
    template parts
    return .primaryOnly
  | '/' :: _ =>
    let n := regexLength text
    require (0 < n)
    pass n
    return .primaryOnly
  | '<' :: _ =>
    if ← comes "<template>" then
      templateElement
      return .plain
    else angle
  | '#' :: _ =>
    privateName
    let _ ← behind p
    require ((← word) = "in" && !p.noIn)
    return .plain
  | '@' :: _ =>
    many (decorator parts)
    let _ ← classPhrase parts
    return .primaryOnly
  | c :: _ =>
    if isQuote c then
      string
      return .primaryOnly
    else if c.isDigit || c = '.' then
      number
      return .primaryOnly
    else wordOperand parts p (← word)
  | [] => fail
where
  angle : Parser Shape := do
    let d ← dialect
    if d.hasTypes then
      (do
        let _ ← parts .typeParameters
        let s ← enclosed parts
        require s.parameters
        match ← arrow? parts p with
        | some f => return f
        | none => fail) <|>
      (if d.hasElements then parts .element
      else do
        let _ ← parts (.typeArguments {})
        let s ← parts (.operand p)
        require s.expression
        return .plain)
    else parts .element

/-- Whether what comes next can follow an expression with type arguments, but is no operand of a
comparison. -/
def followsTypes : Parser Bool := do
  let text ← upcoming
  let w ← word
  if w ≠ "" then return w = "implements" || (← operatorWords).contains w
  else
    match text with
    | c :: _ => return !c.isDigit && !"'\"`~@#".toList.contains c
    | [] => return true

def creation (parts : Parts) (p : Place) : Parser Shape := do
  keyword "new"
  if ← comes "." then
    sign "."
    keyword "target"
    return .primaryOnly
  else
    let isTyped := (← dialect).hasTypes
    let s ← if (← word) = "new" && !isTyped then parts (.creation p) else primary parts p
    require (s.expression && !(s.isNew && isTyped))
    let s ← creationTail parts p s
    require (s.primary || s.isNew)
    match ← behind p with
    | .token =>
      if isTyped && (← comes "<") then optional typed
      let _ ← behind p
      if ← comes "(" then arguments parts
    | _ => return { isNew := true }
    return { isNew := true }
where
  typed : Parser Unit := do
    let _ ← parts (.typeArguments { operand := true })
    match ← behind p with
    | .token => require (← followsTypes)
    | _ => return ()

def operandTail (parts : Parts) (p : Place) (s : Shape) : Parser Shape :=
  iterate (fun s => do
    if !s.expression then return (s, false)
    else
      match ← behind p with
      | .token =>
        match ← upcoming with
        | '?' :: '.' :: _ =>
          pass 2
          match ← upcomingChar with
          | '(' =>
            require s.primary
            arguments parts
            return (.primaryOnly, true)
          | '<' =>
            require s.primary
            let _ ← parts (.typeArguments { operand := true })
            arguments parts
            return (.primaryOnly, true)
          | '[' => subscript
          | _ => name
        | '.' :: _ =>
          pass 1
          name
        | '[' :: _ => subscript
        | '(' :: _ =>
          arguments parts
          return (.primaryOnly, true)
        | '`' :: _ =>
          if s.primary || s.isNew then
            template parts
            return (.primaryOnly, true)
          else return (s, false)
        | '+' :: '+' :: _ =>
          pass 2
          return (.plain, true)
        | '-' :: '-' :: _ =>
          pass 2
          return (.plain, true)
        | '!' :: c :: _ =>
          if (← dialect).hasTypes && c ≠ '=' then
            pass 1
            return (.place, true)
          else return (s, false)
        | ['!'] =>
          if (← dialect).hasTypes then
            pass 1
            return (.place, true)
          else return (s, false)
        | '<' :: _ =>
          if (← dialect).hasTypes then typed s <|> return (s, false) else return (s, false)
        | _ => return (s, false)
      | _ => return (s, false)) s
where
  name : Parser (Shape × Bool) := do
    privateName <|> anyWord
    return (.place, true)
  subscript : Parser (Shape × Bool) := do
    sign "["
    values parts {}
    sign "]"
    return (.place, true)
  typed (_ : Shape) : Parser (Shape × Bool) := do
    let _ ← parts (.typeArguments { operand := true })
    match ← behind p with
    | .token =>
      if ← comes "(" then
        arguments parts
        return (.primaryOnly, true)
      else
        require (← followsTypes)
        return (.plain, true)
    | _ => return (.plain, true)

def target (parts : Parts) (p : Place) : Parser Shape := do
  let s ← primary parts p
  let s ← operandTail parts p s
  let _ ← behind p
  let text ← rest
  let n := if s.updatable || s.enclosed then firstLength updateOperators text else 0
  if (s.target || s.enclosed) && assigns text then
    sign "="
    value parts p
    return { hasDefault := s.target }
  else if 0 < n then
    pass n
    value parts p
    return .plain
  else return s

def operand (parts : Parts) (p : Place) : Parser Shape := do
  let ofOperand : Parser Shape := do
    let s ← parts (.operand p)
    require s.expression
    return .plain
  match ← upcoming with
  | '+' :: '+' :: _ =>
    pass 2
    ofOperand
  | '-' :: '-' :: _ =>
    pass 2
    ofOperand
  | c :: _ =>
    if "+-!~".toList.contains c then
      pass 1
      ofOperand
    else
      let w ← word
      if ["typeof", "void", "delete", "await"].contains w then
        pass w.length
        ofOperand
      else if w = "yield" then operandTail parts p (← yieldOperand parts p)
      else if w = "using" && (← dialect).hasTypes then usingOperand
      else target parts p
  | [] => fail
where
  usingOperand : Parser Shape := do
    keyword "using"
    let s ← target parts p
    require s.hasDefault
    return .plain

def branches (parts : Parts) (p : Place) : Parser Unit := do
  pass 1
  let first (q : Place) : Parser Unit := do
    value parts q
    sign ":"
  if (← dialect).hasTypes then first {} <|> first { noResult := true } else first {}
  value parts p

def expression (parts : Parts) (p : Place) : Parser Shape := do
  let s ← operand parts p
  iterate (fun s => do
    if !s.expression then return (s, false)
    else
      match ← behind p with
      | .semicolon => return (s, false)
      | .question =>
        branches parts p
        return (.plain, false)
      | .token =>
        let n := firstLength binaryOperators (← upcoming)
        if 0 < n then
          pass n
          another
        else
          let w ← word
          let isTyped := (← dialect).hasTypes
          if w = "instanceof" || (w = "in" && !p.noIn) then
            pass w.length
            another
          else if isTyped && (w = "as" || w = "satisfies") then
            pass w.length
            let _ ← parts (.type { semicolon := p.semicolon, operand := true })
            let _ ← operandTail parts p .plain
            return (.plain, true)
          else return (s, false)) s
where
  another : Parser (Shape × Bool) := do
    let s ← operand parts p
    require s.expression
    return (.plain, true)

def expressions (parts : Parts) (p : Place) : Parser Shape := do
  let s ← expression parts p
  match ← behind p with
  | .token =>
    if !s.expression then return s
    else if ← hasSign "," then
      commaList (value parts p)
      return .plain
    else return s
  | _ => return s

end Parser
end Glean.Script
