import Glean.Script.Goal

set_option autoImplicit false

/-!
# Elements

Markup inside of scripts. Its texts are no literals, the values of its attributes are.
-/
namespace Glean.Script

def hyphenatedLength (text : List Char) : Nat :=
  let isPart (c : Char) : Bool := c.isAlphanum || c = '_' || c = '$'
  if text.head?.any Char.isDigit then 0
  else
    let n := spanLength isPart text
    if 0 < n && (text.drop n).head? = some '-' then
      n + spanLength (fun c => isPart c || c = '-') (text.drop n)
    else 0

def referenceLength : List Char → Nat
  | '&' :: text =>
    let (begin, n) := match text with
      | '#' :: x :: digits =>
        if x = 'x' || x = 'X' then (3, min 6 (spanLength isHex digits))
        else (2, min 5 (spanLength Char.isDigit (x :: digits)))
      | _ => (1, min 30 (spanLength Char.isAlpha text))
    if 0 < n && (text.drop (begin - 1 + n)).head? = some ';' then begin + n + 1 else 0
  | _ => 0

def leadingCommentLength (text : List Char) : Nat :=
  let blank := spanLength (fun c => isPlainSpace c || isBreak c) text
  match markupCommentLength (text.drop blank) with
  | 0 => 0
  | n => blank + n

/-- The rest of an attribute's value. An ampersand that begins no reference takes the character
behind it along, be it the quote. At the beginning and behind a reference there may be comments. -/
def attributeTail (q : Char) : Bool → Nat → List Char → Option Nat
  | _, 0, _ => none
  | _, _, [] => none
  | true, fuel + 1, text =>
    let n := leadingCommentLength text
    (attributeTail q (0 < n) fuel (text.drop n)).map (· + n)
  | false, fuel + 1, '&' :: c :: text =>
    if c = '#' || c.isAlpha then
      match referenceLength ('&' :: c :: text) with
      | 0 => none
      | n => (attributeTail q true fuel (('&' :: c :: text).drop n)).map (· + n)
    else if c = '\x00' then none
    else (attributeTail q false fuel text).map (· + 2)
  | false, fuel + 1, c :: text =>
    if c = q then some 1
    else if c = '\x00' || c = '&' then none
    else (attributeTail q false fuel text).map (· + 1)

def attributeLength : List Char → Nat
  | q :: text =>
    if isQuote q then
      match attributeTail q true (2 * text.length + 2) text with
      | some n => n + 1
      | none => 0
    else 0
  | [] => 0

theorem endsIn_attributeTail (q : Char) (mayComment : Bool) (fuel : Nat) (text : List Char)
    (n : Nat) (h : attributeTail q mayComment fuel text = some n) : EndsIn q text n := by
  fun_induction attributeTail q mayComment fuel text generalizing n with
  | case1 | case2 | case4 | case6 | case9 => contradiction
  | case3 fuel text hne skipped ih => exact .of_map ih h
  | case5 => exact .of_map (by assumption) h
  | case7 fuel c text _ _ ih => exact .of_map (n := 2) ih h
  | case8 =>
    obtain rfl := Option.some.inj h
    exact endsIn_one q _
  | case10 fuel c text _ _ _ ih => exact .of_map (n := 1) ih h

theorem isQuoted_attributeLength (text : List Char) (h : 0 < attributeLength text) :
    isQuoted (text.take (attributeLength text)) = true := by
  cases text with
  | nil => contradiction
  | cons q text =>
    simp only [attributeLength] at h ⊢
    split at h
    · rename_i hq
      rw [if_pos hq]
      exact isQuoted_found hq (endsIn_attributeTail q _ _ text) h
    · contradiction

def Measure.attribute : Measure := .ofQuoted attributeLength isQuoted_attributeLength

/-- Text between tags. There is none where nothing but an indented line is found. -/
def elementTextLength (text : List Char) : Nat :=
  let n := spanLength (fun c => !"<>\x7b\x7d&".toList.contains c) text
  let (isText, _) := (text.take n).foldl (fun (isText, inIndent) c =>
    if c = '\n' then (isText, true)
    else
      let inIndent := inIndent && isPlainSpace c
      (isText || !inIndent, inIndent)) (false, false)
  if isText then n else 0

namespace Parser

def elementWord : Parser Bool := do
  let text ← upcoming
  let n := hyphenatedLength text
  let m := wordLength text
  require (0 < n || 0 < m)
  pass (max n m)
  return m < n

def elementName : Parser Unit := do
  let isHyphenated ← elementWord
  if ← hasSign ":" then let _ ← elementWord
  else if !isHyphenated then
    many do
      sign "."
      anyWord

def elementExpression (parts : Parts) : Parser Unit := do
  sign "\x7b"
  if !(← comes "\x7d") then
    if ← hasSign "..." then value parts {} else values parts {}
  sign "\x7d"

def elementAttribute (parts : Parts) : Parser Unit := do
  if ← comes "\x7b" then elementExpression parts
  else
    let _ ← elementWord
    if ← hasSign ":" then let _ ← elementWord
    if ← hasSign "=" then
      match ← upcomingChar with
      | '\x7b' => elementExpression parts
      | '<' => let _ ← parts .element
      | _ => nextLiteral .attribute

def elementContent (parts : Parts) : Parser Unit :=
  iterate (fun _ => do
    let text ← rest
    let comment := leadingCommentLength text
    let n := elementTextLength text
    if 0 < n then
      pass n
      return ((), true)
    else if 0 < comment then
      pass comment
      return ((), true)
    else
      match ← upcoming with
      | '<' :: '/' :: _ =>
        pass 2
        if !(← comes ">") then elementName
        sign ">"
        return ((), false)
      | '<' :: _ =>
        let _ ← parts .element
        return ((), true)
      | '\x7b' :: _ =>
        elementExpression parts
        return ((), true)
      | text =>
        let n := referenceLength text
        require (0 < n)
        pass n
        return ((), true)) ()

def element (parts : Parts) : Parser Shape := do
  sign "<"
  if ← hasSign ">" then elementContent parts
  else if ← hasTypedSign "/>" then return .plain
  else
    elementName
    if (← dialect).hasTypes then optional (do let _ ← parts (.typeArguments {}))
    many (elementAttribute parts)
    if !(← hasSign "/>") then
      sign ">"
      elementContent parts
  return .plain

end Parser
end Glean.Script
