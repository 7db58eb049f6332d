import Glean.Script.Member

set_option autoImplicit false

/-!
# Types

The types of typed scripts. The type of strings is a literal here, and so are strings.
-/
namespace Glean.Script

def typeWords : List String :=
  ["any", "number", "boolean", "symbol", "void", "unknown", "never", "object", "true", "false",
    "null", "undefined", "this", "const"]

def mappedSignLength (text : List Char) : Nat :=
  let n := max (lengthOf "-?:" text) (lengthOf "+?:" text)
  if 0 < n then n else lengthOf "?:" text

namespace Parser

def type? (parts : Parts) (f : Follow) : Parser Unit := do let _ ← parts (.type f)

def ascription (parts : Parts) (f : Follow) : Parser Unit := do
  sign ":"
  type? parts f

def closedList (close : String) (p : Parser Unit) : Parser Unit :=
  iterate (fun _ => do
    p
    if ← hasSign "," then return ((), !(← hasSign close))
    else
      sign close
      return ((), false)) ()

/-- Whether type arguments end in a sign that is an operator behind an operand. -/
def comesComparison : Parser Bool :=
  tries (peek do
    sign "<"
    string <|> number <|> anyWord
    let text ← upcoming
    require (0 < firstLengthOf [">>", ">="] text))
where
  firstLengthOf (signs : List String) (text : List Char) : Nat :=
    ((signs.map (lengthOf · text)).find? (0 < ·)).getD 0

def typeArguments (parts : Parts) (f : Follow) : Parser Unit := do
  if f.operand then
    require !(← comes "<<")
    require !(← comes "<=")
    require !(← comesComparison)
  sign "<"
  closedList ">" (type? parts { logic := f.operand })

def typeParameters (parts : Parts) : Parser Unit := do
  sign "<"
  closedList ">" do
    optional (keyword "const")
    anyWord
    if ← hasKeyword "extends" then type? parts {}
    else if ← hasSign ":" then type? parts {}
    if ← hasSign "=" then type? parts {}

def signature (parts : Parts) (f : Follow) : Parser Unit := do
  if (← dialect).hasTypes then
    if ← comes "<" then typeParameters parts
    parameters parts
    let _ ← next f
    if ← comes ":" then let _ ← parts (.result f)
  else parameters parts

/-- `asserts` with what is asserted, or a statement about what type a parameter has, or a type. -/
def result (parts : Parts) (f : Follow) : Parser Unit := do
  sign ":"
  let w ← word
  if w = "asserts" then
    keyword "asserts"
    subject
    optional is
  else
    (do
      subject
      is) <|>
    type? parts f
where
  subject : Parser Unit := do
    nextLiteral .stringWord <|> anyWord
  is : Parser Unit := do
    let _ ← next f
    keyword "is"
    type? parts f

def indexSignature (parts : Parts) (f : Follow) : Parser Unit := do
  optional do
    let _ ← hasSign "-" <|> hasSign "+"
    keyword "readonly"
  sign "["
  anyWord
  if ← hasSign ":" then type? parts {}
  else
    keyword "in"
    type? parts {}
    if ← hasKeyword "as" then type? parts {}
  sign "]"
  let n := mappedSignLength (← upcoming)
  if 0 < n then
    pass n
    type? parts f
  else
    ascription parts f

def typeMemberFollow : Follow := { semicolon := true }

def typeMember (parts : Parts) : Parser Unit := do
  let c ← upcomingChar
  if c = '(' || c = '<' then signature parts typeMemberFollow
  else
    indexSignature parts typeMemberFollow <|> construction <|> named
where
  construction : Parser Unit := do
    let _ ← hasKeyword "abstract"
    keyword "new"
    let c ← upcomingChar
    require (c = '(' || c = '<')
    if c = '<' then typeParameters parts
    parameters parts
    let _ ← next typeMemberFollow
    if ← comes ":" then ascription parts typeMemberFollow
  named : Parser Unit := do
    let _ ← memberHead typedMethodWords typeMemberFollow
    let _ ← hasSign "*"
    memberName parts
    match ← next typeMemberFollow with
    | .token =>
      let _ ← hasSign "?"
      let _ ← next typeMemberFollow
      let c := (← rest).headD '\x00'
      if c = '(' || c = '<' then signature parts typeMemberFollow
      else if c = ':' then ascription parts typeMemberFollow
    | _ => return ()

def objectType (parts : Parts) : Parser Unit := do
  if !(← hasSign "\x7b|") then sign "\x7b"
  if !(← hasSign ",") then let _ ← hasSign ";"
  iterate (fun _ => do
    if ← hasSign "|\x7d" then return ((), false)
    else if ← hasSign "\x7d" then return ((), false)
    else
      typeMember parts
      match ← next typeMemberFollow with
      | .semicolon =>
        notice none
        return ((), true)
      | _ =>
        if ← hasSign "," then return ((), true)
        else if ← hasSign ";" then return ((), true)
        else if ← hasSign "|\x7d" then return ((), false)
        else
          sign "\x7d"
          return ((), false)) ()

def tupleMember (parts : Parts) : Parser Unit := do
  if ← hasSign "..." then named <|> type? parts {}
  else
    named <|> do
      type? parts {}
      let _ ← hasSign "?"
where
  named : Parser Unit := do
    anyWord
    let _ ← hasSign "?"
    ascription parts {}

def tuple (parts : Parts) : Parser Unit := do
  sign "["
  if !(← hasSign "]") then closedList "]" (tupleMember parts)

def templateType (parts : Parts) : Parser Unit := do
  sign "`"
  iterate (fun _ => do
    let n := templateLength (← rest)
    if 0 < n then pass n
    match ← rest with
    | '`' :: _ =>
      pass 1
      return ((), false)
    | _ =>
      sign "$\x7b"
      type? parts {}
      sign "\x7d"
      return ((), true)) ()

def functionType (parts : Parts) (f : Follow) : Parser Unit := do
  if ← comes "<" then typeParameters parts
  parameters parts
  sign "=>"
  let w ← word
  if w = "asserts" then
    keyword "asserts"
    anyWord
    optional do
      keyword "is"
      type? parts f
  else
    (do
      anyWord
      keyword "is"
      type? parts f) <|>
    type? parts f

def constructorType (parts : Parts) (f : Follow) : Parser Unit := do
  let _ ← hasKeyword "abstract"
  keyword "new"
  if ← comes "<" then typeParameters parts
  parameters parts
  sign "=>"
  type? parts f

def queryTail (parts : Parts) (f : Follow) : Parser Unit :=
  many do
    match ← next f with
    | .token =>
      match ← rest with
      | '.' :: _ =>
        pass 1
        privateName <|> anyWord
      | '?' :: '.' :: _ =>
        pass 2
        privateName <|> anyWord
      | '[' :: _ =>
        pass 1
        string <|> number <|> nextLiteral .stringWord <|> do
          require (["any", "number", "boolean", "symbol", "void", "unknown", "never",
            "object"].contains (← word))
          anyWord
        sign "]"
      | '(' :: _ => arguments parts
      | _ => fail
    | _ => fail

def typePath (parts : Parts) (f : Follow) : Parser Unit := do
  anyWord
  many do
    match ← next f with
    | .token =>
      sign "."
      anyWord
    | _ => fail
  match ← next f with
  | .token => if ← comes "<" then optional (typeArguments parts f)
  | _ => return ()

def simpleType (parts : Parts) (f : Follow) : Parser Unit := do
  let c ← upcomingChar
  if isQuote c then string
  else if c.isDigit || c = '.' then number
  else
    match c with
    | '(' =>
      functionType parts f <|> do
        sign "("
        type? parts { logic := true }
        sign ")"
    | '<' => functionType parts f
    | '\x7b' => objectType parts
    | '[' => tuple parts
    | '`' => templateType parts
    | '*' => pass 1
    | '-' =>
      pass 1
      number
    | '+' =>
      pass 1
      number
    | '?' =>
      pass 1
      type? parts f
    | _ => nextLiteral .stringWord <|> do named (← word)
where
  named (w : String) : Parser Unit := do
    match w with
    | "new" => constructorType parts f
    | "abstract" => constructorType parts f
    | "keyof" =>
      keyword w
      type? parts f
    | "readonly" =>
      keyword w
      type? parts f
    | "unique" =>
      keyword w
      keyword "symbol"
    | "infer" =>
      keyword w
      anyWord
      let _ ← next f
      if ← hasKeyword "extends" then type? parts f
    | "typeof" =>
      keyword w
      anyWord
      queryTail parts f
      match ← next f with
      | .token => if ← comes "<" then optional (typeArguments parts f)
      | _ => return ()
    | "import" =>
      keyword w
      let c ← upcomingChar
      require (c = '(' || c = '.')
      queryTail parts f
    | _ => if typeWords.contains w then keyword w else typePath parts f

def type (parts : Parts) (f : Follow) : Parser Unit := do
  leads
  simpleType parts f
  many do
    match ← next f with
    | .token =>
      match ← rest with
      | '[' :: _ =>
        pass 1
        if !(← hasSign "]") then
          type? parts {}
          sign "]"
      | '|' :: c :: _ =>
        require (c ≠ '\x7d' && !((f.operand || f.logic) && c = '|'))
        pass 1
        leads
        simpleType parts f
      | '&' :: c :: _ =>
        require !((f.operand || f.logic) && c = '&')
        pass 1
        leads
        simpleType parts f
      | _ =>
        keyword "extends"
        type? parts {}
        sign "?"
        type? parts {}
        sign ":"
        type? parts f
    | _ => fail
where
  leads : Parser Unit := many (sign "|" <|> sign "&")

def fieldWords : List String :=
  ["declare"] ++ accessWords ++
    ["declare", "static", "abstract", "override", "readonly", "abstract", "accessor", "async",
      "get", "set"]

def signatureFollow : Follow := { semicolon := true, signature := true }

def memberEnd (f : Follow) : Parser Unit := do
  match ← next f with
  | .semicolon => notice none
  | _ => if !(← hasSign ",") then sign ";"

def typedMember (parts : Parts) : Parser Unit := do
  let head ← memberHead fieldWords memberFollow
  let isGenerator ← hasSign "*"
  let isMethod := isGenerator || ["async", "get", "set"].any head.contains
  let isField := ["declare", "accessor"].any head.contains
  memberName parts
  match ← next memberFollow with
  | .token =>
    let isSure ← hasSign "!"
    if !isSure then let _ ← hasSign "?"
    match ← next memberFollow with
    | .token =>
      let c := (← rest).headD '\x00'
      if c = '(' || c = '<' then
        require (!isField && !isSure)
        let _ ← parts (.signature signatureFollow)
        let _ ← next signatureFollow
        if ← comes "\x7b" then
          require !(head.contains "abstract")
          let _ ← parts (.block false)
          softEnd false
          let _ ← hasSign ";"
        else memberEnd signatureFollow
      else
        require !isMethod
        if c = ':' then ascription parts memberFollow
        match ← next memberFollow with
        | .token =>
          if ← hasSign "=" then
            value parts { semicolon := true }
            memberEnd { semicolon := true, operand := true }
          else memberEnd memberFollow
        | _ => memberEnd memberFollow
    | _ =>
      require !isMethod
      memberEnd memberFollow
  | _ =>
    require !isMethod
    memberEnd memberFollow

def typedClassBody (parts : Parts) : Parser Unit := do
  sign "\x7b"
  many do
    if ← hasSign ";" then return ()
    else if ← comes "@" then decorator parts
    else
      staticBlock parts <|> indexed <|> typedMember parts
  sign "\x7d"
where
  indexed : Parser Unit := do
    indexSignature parts memberFollow
    memberEnd memberFollow

def classBody (parts : Parts) : Parser Unit := do
  if (← dialect).hasTypes then typedClassBody parts else plainClassBody parts

end Parser
end Glean.Script
