import Glean.Script.Parser
import Glean.Script.Token

set_option autoImplicit false

/-!
# Gaps

Between two tokens there may be white space and comments. Where a statement can end, what lies in
the gap and behind it decides whether it ends as if there were a semicolon.
-/
namespace Glean.Script

/-- What can be at a place: the end of a statement, of an operand, of a function without a body, or
of a type that `&&` and `||` follow as operators. -/
structure Follow where
  semicolon : Bool := false
  operand : Bool := false
  signature : Bool := false
  logic : Bool := false

structure Look where
  rest : List Char
  comment : Bool

/-- What is behind white space and comments, and whether a line ends among them. Without `all` the
look ends behind a block comment that holds no line end. There is nothing to look at where a slash
begins no comment. -/
def lookBehind (all : Bool) : Nat → Bool → Bool → List Char → Option (Look × Bool)
  | 0, comment, _, text => some (⟨text, comment⟩, true)
  | fuel + 1, comment, broken, text =>
    let text := text.dropWhile isPlainSpace
    match text with
    | '/' :: '/' :: text =>
      lookBehind all fuel true broken (text.dropWhile fun c => !isBreak c && c ≠ '\x00')
    | '/' :: '*' :: text =>
      match blockEnd? text with
      | some n =>
        let broken := broken || (text.take n).any isBreak
        let behind := text.drop n
        if all || behind.head? = some '/' then lookBehind all fuel true broken behind
        else some (⟨behind, true⟩, broken)
      | none => some (⟨[], comment⟩, true)
    | '/' :: _ => none
    | _ => some (⟨text, comment⟩, true)

def isEnd : List Char → Bool
  | [] => true
  | c :: _ => c = '\x00'

def endsBefore (d : Dialect) (f : Follow) (text : List Char) : Bool :=
  match text with
  | '.' :: c :: _ => !d.hasTypes && c.isDigit
  | '+' :: c :: _ => c = '+'
  | '-' :: c :: _ => c = '-'
  | '!' :: c :: _ => c ≠ '='
  | 'i' :: 'n' :: text =>
    if "stanceof".toList.isPrefixOf text then
      (text.drop 8).head?.any Char.isAlpha
    else text.head?.any Char.isAlpha
  | c :: _ =>
    if "[(".toList.contains c then d.hasTypes && !f.operand
    else if c = '\x7b' then !(d.hasTypes && f.signature)
    else !"`,.:;*%><=?^|&/+-".toList.contains c
  | [] => true

/-- Whether a statement ends at a look as if there were a semicolon, and the look taken. White space
that is on the line has to be passed first. -/
def endsAt? (d : Dialect) (f : Follow) (look : Look) : Option (Bool × Look) :=
  match look.rest with
  | '\x7d' :: behind =>
    let isLabel := (behind.dropWhile isPlainSpace).head? = some ':'
    some (!(d.hasTypes && isLabel) || f.operand, look)
  | c :: behind =>
    if isBreak c then
      match lookBehind true (behind.length + 1) look.comment false behind with
      | none => some (false, look)
      | some (look, _) => some (endsBefore d f look.rest, look)
    else if isPlainSpace c then none
    else some (false, look)
  | [] => some (false, look)

def endsHere (d : Dialect) (f : Follow) : Nat → Bool → List Char → Bool × Look
  | 0, comment, text => (false, ⟨text, comment⟩)
  | fuel + 1, comment, text =>
    let atLine (look : Look) : Bool × Look :=
      match endsAt? d f look with
      | some answer => answer
      | none => endsHere d f fuel look.comment (look.rest.drop 1)
    if isEnd text then (true, ⟨text, comment⟩)
    else
      match text with
      | '/' :: _ =>
        match lookBehind false (text.length + 1) comment false text with
        | none => (false, ⟨text, comment⟩)
        | some (look, broken) =>
          let isJoined := look.rest.head?.any fun c => c = ',' || c = '='
          if broken && !f.operand && !isJoined then (true, look)
          else atLine look
      | _ => atLine ⟨text, comment⟩

def questionLength (d : Dialect) (text : List Char) : Nat :=
  let n := spanLength isPlainSpace text
  match text.drop n with
  | '?' :: '?' :: _ => 0
  | '?' :: '.' :: c :: _ => if c.isDigit then n + 1 else 0
  | '?' :: behind =>
    if d.hasTypes then
      match behind.dropWhile isPlainSpace with
      | '.' :: c :: _ => if c.isDigit then n + 1 else 0
      | c :: _ => if ":),.".toList.contains c then 0 else n + 1
      | [] => n + 1
    else if behind = ['.'] then 0
    else n + 1
  | _ => 0

def gap (d : Dialect) (f : Follow) : Nat → List Char → Nat × Ahead
  | 0, _ => (0, .token)
  | fuel + 1, text =>
    let goOn (n : Nat) : Nat × Ahead :=
      let (m, ahead) := gap d f fuel (text.drop n)
      (n + m, ahead)
    let canEnd := f.semicolon || (d.hasTypes && f.signature)
    let (ends, look) := if canEnd then endsHere d f (text.length + 1) false text
      else (false, ⟨text, false⟩)
    let question :=
      if canEnd && look.comment then 0 else if f.operand then questionLength d text else 0
    let blank := spanLength (fun c => isPlainSpace c || isBreak c) text
    let markup :=
      if canEnd || f.operand then 0 else markupCommentLength (text.drop blank)
    if ends then (0, .semicolon)
    else if 0 < question then (question - 1, .question)
    else if 0 < markup then goOn (blank + markup)
    else
      let n := spanLength isSpace text
      match commentLength (text.drop n) with
      | 0 => (n, .token)
      | m => goOn (n + m)

namespace Parser

/-- Passes over the gap in front of what comes next, unless that is known already. -/
def next (f : Follow) : Parser Ahead := do
  let c ← cursor
  match c.ahead with
  | some ahead => return ahead
  | none =>
    let (n, ahead) := gap c.dialect f (c.rest.length + 1) c.rest
    if 0 < n then pass n
    notice (some ahead)
    return ahead

def upcoming : Parser (List Char) := do
  let _ ← next {}
  rest

def sign (s : String) : Parser Unit := do
  let n := lengthOf s (← upcoming)
  require (0 < n)
  pass n

def word : Parser String := do
  let text ← upcoming
  return String.ofList (text.take (wordLength text))

def keyword (s : String) : Parser Unit := do
  require ((← word) = s)
  pass s.length

def anyWord : Parser Unit := do
  let n := wordLength (← upcoming)
  require (0 < n)
  pass n

/-- The end of a statement: a semicolon, or a place that stands for one. -/
def semicolon (operand : Bool) : Parser Unit := do
  match ← next { semicolon := true, operand } with
  | .semicolon => notice none
  | _ => sign ";"

def softEnd (operand : Bool) : Parser Unit := do
  match ← next { semicolon := true, operand } with
  | .semicolon => notice none
  | _ => return ()

end Parser

end Glean.Script
