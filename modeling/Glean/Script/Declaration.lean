import Glean.Script.Statement
import Glean.Script.Type

set_option autoImplicit false

/-!
# Declarations

The declarations of typed scripts. Most of the words they begin with are names as well.
-/
namespace Glean.Script
namespace Parser

def typeAlias (parts : Parts) : Parser Unit := do
  keyword "type"
  anyWord
  if ← comes "<" then typeParameters parts
  sign "="
  type? parts { semicolon := true }
  semicolon false

def interfaceDeclaration (parts : Parts) : Parser Unit := do
  keyword "interface"
  anyWord
  if ← comes "<" then typeParameters parts
  if ← hasKeyword "extends" then commaList (typePath parts {})
  objectType parts

def enumDeclaration (parts : Parts) : Parser Unit := do
  let _ ← hasKeyword "const"
  keyword "enum"
  anyWord
  sign "\x7b"
  if !(← hasSign "\x7d") then
    closedList "\x7d" do
      memberName parts
      if ← hasSign "=" then value parts {}

def dottedName : Parser Unit := do
  anyWord
  many do
    sign "."
    anyWord

def moduleDeclaration (parts : Parts) : Parser Unit := do
  anyWord
  moduleBody parts {}

def typedFunction (parts : Parts) : Parser Unit := do
  let _ ← hasKeyword "async"
  keyword "function"
  anyWord
  let _ ← parts (.signature signatureFollow)
  let _ ← next signatureFollow
  require !(← comes "\x7b")
  match ← next signatureFollow with
  | .semicolon => notice none
  | _ => sign ";"

def abstractClass (parts : Parts) : Parser Unit := do
  many (decorator parts)
  keyword "abstract"
  classStatement parts

def importAlias : Parser Unit := do
  keyword "import"
  anyWord
  sign "="
  (do
    keyword "require"
    sign "("
    string
    sign ")") <|>
  dottedName
  semicolon false

def typedDeclaration (parts : Parts) (ambient : Parser Unit) : Parser Unit := do
  match ← word with
  | "type" => typeAlias parts
  | "interface" => interfaceDeclaration parts
  | "enum" => enumDeclaration parts
  | "const" => enumDeclaration parts <|> plainDeclaration parts
  | "namespace" => moduleDeclaration parts
  | "module" => moduleDeclaration parts
  | "abstract" => abstractClass parts
  | "import" => importAlias
  | "function" => typedFunction parts <|> plainDeclaration parts
  | "async" => typedFunction parts <|> plainDeclaration parts
  | "declare" => ambient
  | _ => abstractClass parts <|> plainDeclaration parts

/-- A declaration of what is defined elsewhere. -/
def ambientFrom (parts : Parts) (declaration : Parser Unit) : Parser Unit := do
  keyword "declare"
  let w ← word
  if w = "global" then
    keyword "global"
    braces parts
  else
    declaration <|> do
      keyword "module"
      sign "."
      anyWord
      ascription parts { semicolon := true }
      semicolon false

def declarationOf (parts : Parts) : Nat → Parser Unit
  | 0 => fail
  | n + 1 => typedDeclaration parts (ambientFrom parts (declarationOf parts n))

def exportOf (parts : Parts) (declaration : Parser Unit) : Parser Unit := do
  match ← upcomingChar with
  | '=' =>
    sign "="
    expressionStatement parts
  | _ =>
    (do
      keyword "as"
      keyword "namespace"
      anyWord
      semicolon false) <|>
    (do
      keyword "type"
      moduleNames specifier
      let _ ← next { semicolon := true }
      if (← word) = "from" then moduleSource
      semicolon false) <|>
    exportTail parts declaration

def typedStatement (parts : Parts) : Parser Unit := do
  let fuel := (← rest).length
  let declared := declarationOf parts (fuel + 1)
  match ← word with
  | "export" => exportStatement parts (exportOf parts declared)
  | "interface" => interfaceDeclaration parts
  | "enum" => enumDeclaration parts
  | "abstract" => abstractClass parts
  | "const" => enumDeclaration parts <|> statement parts
  | "type" => headed (typeAlias parts) <|> statement parts
  | "namespace" => headed (declaration (moduleDeclaration parts)) <|> statement parts
  | "module" => headed (moduleDeclaration parts) <|> statement parts
  | "declare" => headed declared <|> statement parts
  | "import" => importAlias <|> statement parts
  | "function" => typedFunction parts <|> statement parts
  | "async" => typedFunction parts <|> statement parts
  | _ =>
    if ← comes "@" then
      exportStatement parts (exportOf parts declared) <|> abstractClass parts <|> statement parts
    else statement parts

def anyStatement (parts : Parts) : Parser Unit := do
  if (← dialect).hasTypes then typedStatement parts else statement parts

end Parser
end Glean.Script
