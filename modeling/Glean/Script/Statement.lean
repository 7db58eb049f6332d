import Glean.Script.Expression

set_option autoImplicit false

/-!
# Statements

What a statement is follows from its first word, but for words that are names as well.
-/
namespace Glean.Script
namespace Parser

def statementPlace : Place := { semicolon := true }

def condition (parts : Parts) : Parser Unit := do
  let s ← enclosed parts
  require s.expression

def expressionStatement (parts : Parts) : Parser Unit := do
  values parts statementPlace
  semicolon true

def body (parts : Parts) : Parser Unit := do let _ ← parts .statement

def braces (parts : Parts) : Parser Unit := do let _ ← parts (.block false)

/-- Whether what comes next can follow a finished statement. An operator cannot. -/
def endsStatement : Parser Bool := do
  match ← next { semicolon := true, operand := true } with
  | .semicolon =>
    notice none
    return true
  | .question => return false
  | .token =>
    let w ← word
    let c ← upcomingChar
    let isOperator := 0 < firstLength ["!=", "<<", "<="] (← rest)
    let words ← operatorWords
    return !isOperator && !".,?=*%>^|&:".toList.contains c && !words.contains w

def declaration (p : Parser Unit) : Parser Unit := do
  p
  require (← endsStatement)

def blockStatement (parts : Parts) : Parser Unit :=
  declaration (braces parts) <|> do
    let isBlock ← comesBlock parts
    if isBlock then braces parts
    else expressionStatement parts <|> do
      require !(← tries (peek do
        sign "\x7b"
        sign "\x7d"))
      braces parts

def pattern (parts : Parts) : Parser Unit := do
  let s ← if ← comes "[" then array parts else object parts
  require s.target

def binding (parts : Parts) : Parser Unit := do
  let c ← upcomingChar
  if c = '[' || c = '\x7b' then pattern parts else anyWord

/-- The type of what is declared, behind `!` if it is given no value. Tells whether a value may
follow. -/
def bindingType (parts : Parts) (isName : Bool) : Parser Bool := do
  if (← dialect).hasTypes then
    let _ ← next { semicolon := true }
    if isName && (← hasSign "!") then
      typed
      return false
    else
      if ← comes ":" then typed
      return true
  else return true
where
  typed : Parser Unit := do
    sign ":"
    let _ ← parts (.type { semicolon := true })

def declarator (parts : Parts) : Parser Unit := do
  let isName := (← word) ≠ ""
  binding parts
  let canHaveValue ← bindingType parts isName
  match ← next { semicolon := true } with
  | .semicolon => return ()
  | .question => fail
  | .token =>
    if ← hasSign "=" then
      require canHaveValue
      value parts statementPlace

def declarators (parts : Parts) : Parser Unit := do
  commaList (declarator parts)
  semicolon false

def followedBy (s : String) : Parser Bool :=
  tries (peek do
    anyWord
    let _ ← next { semicolon := true, operand := true }
    sign s)

/-- A declaration, unless its first word is a name here. -/
def headed (declaration : Parser Unit) : Parser Unit := do
  peek do
    anyWord
    match ← next { semicolon := true, operand := true } with
    | .token => require !(← operatorWords).contains (← word)
    | _ => fail
  declaration

def bindings (parts : Parts) : Parser Unit := do
  anyWord
  declarators parts

def functionStatement (parts : Parts) : Parser Unit := do
  if ← hasKeyword "async" then
    match ← next { semicolon := true, operand := true } with
    | .token => pure ()
    | _ => fail
  require (← function parts)

def classStatement (parts : Parts) : Parser Unit := do
  many (decorator parts)
  require (← classPhrase parts)

def plainDeclaration (parts : Parts) : Parser Unit := do
  match ← word with
  | "var" | "let" | "const" => bindings parts
  | "function" => declaration (functionStatement parts)
  | "async" => declaration (functionStatement parts)
  | _ => declaration (classStatement parts)

def moduleSource : Parser Unit := do
  keyword "from"
  string

def moduleName : Parser Unit := string <|> anyWord

def moduleNames (specifier : Parser Unit) : Parser Unit := do
  sign "\x7b"
  if !(← comes ",") && !(← comes "\x7d") then
    specifier
    many do
      sign ","
      specifier
  let _ ← hasSign ","
  sign "\x7d"

def specifier : Parser Unit := do
  let name : Parser Unit := do
    moduleName
    if ← hasKeyword "as" then moduleName
  if (← dialect).hasTypes then
    (do
      let w ← word
      require (w = "type" || w = "typeof")
      anyWord
      name
      let c ← upcomingChar
      require (c = ',' || c = '\x7d')) <|>
    name
  else name

def importSpecifier : Parser Unit := do
  let name : Parser Unit := do
    let isName := !isQuote (← upcomingChar)
    moduleName
    if ← hasKeyword "as" then anyWord else require isName
  if (← dialect).hasTypes then
    (do
      let w ← word
      require (w = "type" || w = "typeof")
      anyWord
      name
      let c ← upcomingChar
      require (c = ',' || c = '\x7d')) <|>
    name
  else name

def importClause : Parser Unit := do
  let space : Parser Unit := do
    sign "*"
    keyword "as"
    anyWord
  match ← upcomingChar with
  | '*' => space
  | '\x7b' => moduleNames importSpecifier
  | _ =>
    anyWord
    if ← hasSign "," then space <|> moduleNames importSpecifier

def importTail (parts : Parts) : Parser Unit := do
  let _ ← next { semicolon := true }
  if (← comes "with") then
    keyword "with"
    let s ← object parts
    require s.expression
  semicolon false

def importStatement (parts : Parts) : Parser Unit := do
  keyword "import"
  let source : Parser Unit := string <|> do
    importClause
    moduleSource
  if (← dialect).hasTypes then
    (do
      let w ← word
      require (w = "type" || w = "typeof")
      anyWord
      source
      importTail parts) <|>
    (do
      source
      importTail parts)
  else
    source
    importTail parts

def exportTail (parts : Parts) (declaration : Parser Unit) : Parser Unit := do
  match ← upcomingChar with
  | '*' =>
    sign "*"
    if ← hasKeyword "as" then moduleName
    moduleSource
    semicolon false
  | '\x7b' =>
    moduleNames specifier
    let _ ← next { semicolon := true }
    if (← word) = "from" then moduleSource
    semicolon false
  | _ =>
    if ← hasKeyword "default" then
      declaration <|> expressionStatement parts
    else declaration

def ifStatement (parts : Parts) : Parser Unit := do
  keyword "if"
  condition parts
  body parts
  if ← hasKeyword "else" then body parts

def iteration (parts : Parts) : Parser Unit := do
  sign "("
  match ← word with
  | "var" =>
    keyword "var"
    binding parts
    match ← next { semicolon := true } with
    | .token =>
      if ← hasSign "=" then
        let s ← parts (.expression { semicolon := true, noIn := true })
        require s.expression
    | _ => fail
  | "const" => constant
  | "let" => constant <|> left
  | _ => left
  let w ← word
  require (w = "in" || w = "of")
  anyWord
  values parts {}
  sign ")"
where
  constant : Parser Unit := do
    anyWord
    binding parts
    softEnd false
    let w ← word
    require (w = "in" || w = "of")
  left : Parser Unit := do
    let s ← target parts { noIn := true }
    require (s.target || s.enclosed)

def counting (parts : Parts) : Parser Unit := do
  sign "("
  let w ← word
  let expression : Parser Unit := do
    values parts {}
    sign ";"
  if ← hasSign ";" then pure ()
  else if w = "var" || w = "const" then bindings parts
  else if w = "let" then
    (do
      anyWord
      require !(← operatorWords).contains (← word)
      declarators parts) <|>
    expression
  else expression
  if !(← hasSign ";") then expression
  if !(← comes ")") then values parts {}
  sign ")"

def forStatement (parts : Parts) : Parser Unit := do
  keyword "for"
  let isAwait ← hasKeyword "await"
  iteration parts <|> do
    require !isAwait
    counting parts
  body parts

def switchStatement (parts : Parts) : Parser Unit := do
  keyword "switch"
  condition parts
  sign "\x7b"
  many do
    if ← hasKeyword "case" then values parts {} else keyword "default"
    sign ":"
    many do
      let w ← word
      require (w ≠ "case" && w ≠ "default")
      body parts
  sign "\x7d"

def tryStatement (parts : Parts) : Parser Unit := do
  keyword "try"
  braces parts
  if ← hasKeyword "catch" then
    if ← hasSign "(" then
      binding parts
      if ← hasTypedSign ":" then let _ ← parts (.type {})
      sign ")"
    braces parts
  if ← hasKeyword "finally" then braces parts

def doStatement (parts : Parts) : Parser Unit := do
  keyword "do"
  body parts
  keyword "while"
  condition parts
  softEnd false
  let _ ← hasSign ";"

def jumpStatement : Parser Unit := do
  anyWord
  match ← next { semicolon := true } with
  | .semicolon => semicolon false
  | _ =>
    optional anyWord
    semicolon false

def returnStatement (parts : Parts) : Parser Unit := do
  keyword "return"
  match ← next { semicolon := true } with
  | .semicolon => semicolon false
  | _ => if !(← hasSign ";") then expressionStatement parts

def namedStatement (parts : Parts) : Parser Unit := do
  let isLabel ← tries (peek do
    require !(← isReserved (← word))
    anyWord
    let _ ← next { semicolon := true, operand := true }
    sign ":")
  if isLabel then
    anyWord
    sign ":"
    body parts
  else expressionStatement parts

/-- A declaration that begins with a word that can also begin an expression. -/
def plainStatement (parts : Parts) (w : String) : Parser Unit := do
  match w with
  | "var" | "const" => bindings parts
  | "let" =>
    headed (bindings parts) <|> do
      require !(← followedBy "[")
      namedStatement parts
  | "function" => declaration (functionStatement parts) <|> expressionStatement parts
  | "async" => declaration (functionStatement parts) <|> namedStatement parts
  | "class" => declaration (classStatement parts) <|> expressionStatement parts
  | "import" =>
    let isOperand ← tries (peek do
      keyword "import"
      require ("(.?<".toList.contains (← upcomingChar)))
    if isOperand then expressionStatement parts else importStatement parts
  | "if" => ifStatement parts
  | "for" => forStatement parts
  | "while" =>
    keyword "while"
    condition parts
    body parts
  | "with" =>
    keyword "with"
    condition parts
    body parts
  | "do" => doStatement parts
  | "switch" => switchStatement parts
  | "try" => tryStatement parts
  | "break" => jumpStatement
  | "continue" => jumpStatement
  | "debugger" =>
    keyword "debugger"
    semicolon false
  | "return" => returnStatement parts
  | "throw" =>
    keyword "throw"
    expressionStatement parts
  | _ => namedStatement parts

def exportStatement (parts : Parts) (tail : Parser Unit) : Parser Unit :=
  (do
    many (decorator parts)
    keyword "export"
    match ← next { semicolon := true, operand := true } with
    | .token => tail
    | _ => fail) <|>
  (do
    require ((← followedBy "**") || !(← followedBy "*"))
    require !(← followedBy "as")
    namedStatement parts)

def statement (parts : Parts) : Parser Unit := do
  let c ← upcomingChar
  let w ← word
  if c = '\x7b' then blockStatement parts
  else if c = ';' then pass 1
  else if c = '@' then
    exportStatement parts (exportTail parts (plainDeclaration parts)) <|>
    declaration (classStatement parts) <|> expressionStatement parts
  else if w = "export" then exportStatement parts (exportTail parts (plainDeclaration parts))
  else plainStatement parts w

def block (parts : Parts) (operand : Bool) : Parser Unit := do
  sign "\x7b"
  many (body parts)
  sign "\x7d"
  softEnd operand

def script (parts : Parts) : Parser Unit := do
  if (← rest).head? = some '\ufeff' then pass 1
  if ← hasSign "#!" then
    let text ← rest
    pass (spanLength (· ≠ '\n') text)
  many (body parts)
  require (← upcoming).isEmpty

end Parser
end Glean.Script
