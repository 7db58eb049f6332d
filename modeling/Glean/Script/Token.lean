set_option autoImplicit false

/-!
# Tokens

The length of the token of a kind that a text begins with, zero where there is none. NUL belongs to
no token.
-/
namespace Glean.Script

def isSpace (c : Char) : Bool :=
  ('\t' ≤ c && c ≤ '\r') || c = ' ' || c = '\xa0' || c = '\u1680' ||
    ('\u2000' ≤ c && c ≤ '\u200b') || c = '\u2028' || c = '\u2029' || c = '\u202f' ||
    c = '\u205f' || c = '\u2060' || c = '\u3000' || c = '\ufeff'

def isPlainSpace (c : Char) : Bool := ('\t' ≤ c && c ≤ '\r') || c = ' '

/-- The characters that end a line but for the carriage return. -/
def isBreak (c : Char) : Bool := c = '\n' || c = '\u2028' || c = '\u2029'

def isHex (c : Char) : Bool := c.isDigit || ('a' ≤ c && c ≤ 'f') || ('A' ≤ c && c ≤ 'F')

def isOctal (c : Char) : Bool := '0' ≤ c && c ≤ '7'

def isBinary (c : Char) : Bool := c = '0' || c = '1'

def spanLength (p : Char → Bool) : List Char → Nat
  | c :: text => if c ≠ '\x00' && p c then spanLength p text + 1 else 0
  | [] => 0

def lengthOf (word : String) (text : List Char) : Nat :=
  if word.toList.isPrefixOf text then word.length else 0

def blockEnd? : List Char → Option Nat
  | '*' :: '/' :: _ => some 2
  | c :: text => if c = '\x00' then none else (blockEnd? text).map (· + 1)
  | [] => none

def commentLength : List Char → Nat
  | '/' :: '/' :: text => 2 + spanLength (fun c => !isBreak c && c ≠ '\r') text
  | '/' :: '*' :: text =>
    match blockEnd? text with
    | some n => n + 2
    | none => 0
  | _ => 0

/-- A comment in the style of markup ends with its line. -/
def markupCommentLength (text : List Char) : Nat :=
  let n := max (lengthOf "<!--" text) (lengthOf "-->" text)
  if n = 0 then 0 else n + spanLength (fun c => !isBreak c) (text.drop n)

def isWordChar (c : Char) : Bool :=
  '\x20' ≤ c && !isSpace c && !":;`\"'@#.,|^&<=>+-*/\\%?!~()[]\x7b\x7d".toList.contains c

def codePointLength : List Char → Nat
  | '\x7b' :: text =>
    let n := spanLength isHex text
    if 0 < n ∧ (text.drop n).head? = some '\x7d' then n + 2 else 0
  | text => if 4 ≤ spanLength isHex text then 4 else 0

/-- The length of a run of word characters, which may be written as escapes. `fuel` bounds it. -/
def wordTail : Nat → List Char → Nat
  | 0, _ => 0
  | _, [] => 0
  | fuel + 1, '\\' :: 'u' :: text =>
    match codePointLength text with
    | 0 => 0
    | n => n + 2 + wordTail fuel (text.drop n)
  | fuel + 1, c :: text => if isWordChar c then wordTail fuel text + 1 else 0

def wordLength (text : List Char) : Nat :=
  if text.head?.any Char.isDigit then 0 else wordTail text.length text

def digitTail (p : Char → Bool) : List Char → Nat
  | '_' :: c :: text => if p c then digitTail p text + 2 else 0
  | c :: text => if p c then digitTail p text + 1 else 0
  | [] => 0

def digitsLength (p : Char → Bool) : List Char → Nat
  | c :: text => if p c then digitTail p text + 1 else 0
  | [] => 0

def exponentLength : List Char → Nat
  | e :: text =>
    if e = 'e' || e = 'E' then
      let sign := if text.head?.any fun c => c = '+' || c = '-' then 1 else 0
      match digitsLength Char.isDigit (text.drop sign) with
      | 0 => 0
      | n => 1 + sign + n
    else 0
  | [] => 0

def basedLength (p : Char → Bool) (text : List Char) : Nat :=
  match digitsLength p text with
  | 0 => 0
  | n => 2 + n + if (text.drop n).head? = some 'n' then 1 else 0

/-- A number without a base sign. A fraction or an exponent does not follow digits that begin with
a needless zero and no digit other than zero behind it. -/
def decimalLength (text : List Char) : Nat :=
  match text with
  | '.' :: fraction =>
    match digitsLength Char.isDigit fraction with
    | 0 => 0
    | n => 1 + n + exponentLength (fraction.drop n)
  | _ =>
    let n := digitsLength Char.isDigit text
    let hasFraction := match text with
      | '0' :: c :: _ => n = 1 || ('1' ≤ c && c ≤ '9')
      | _ => true
    if n = 0 then 0
    else
      match text.drop n with
      | 'n' :: _ => n + 1
      | '.' :: fraction =>
        if hasFraction then
          let m := digitsLength Char.isDigit fraction
          n + 1 + m + exponentLength (fraction.drop m)
        else n
      | behind => if hasFraction then n + exponentLength behind else n

def numberLength (text : List Char) : Nat :=
  match text with
  | '0' :: b :: digits =>
    let based :=
      if b = 'x' || b = 'X' then basedLength isHex digits
      else if b = 'o' || b = 'O' then basedLength isOctal digits
      else if b = 'b' || b = 'B' then basedLength isBinary digits
      else 0
    max based (decimalLength text)
  | _ => decimalLength text

def escapeLength : List Char → Nat
  | '\\' :: c :: text =>
    if c = '\x00' then 0
    else if c = 'x' then if 2 ≤ spanLength isHex text then 4 else 0
    else if c = 'u' then
      match codePointLength text with
      | 0 => 0
      | n => n + 2
    else if isOctal c then 2 + min 2 (spanLength isOctal text)
    else if (c = '\r' || c = '?') && text.head?.any isBreak then 3
    else 2
  | _ => 0

/-- The length of the body of a literal and its quote. Behind the end of a line there may be white
space, and then the quote or a comment. -/
def bodyLength (q : Char) : Nat → List Char → Option Nat
  | 0, _ => none
  | _, [] => none
  | fuel + 1, c :: text =>
    let further (n : Nat) : Option Nat := (bodyLength q fuel ((c :: text).drop n)).map (· + n)
    if c = q then some 1
    else if c = '\x00' then none
    else if c = '\\' then
      match escapeLength (c :: text) with
      | 0 => none
      | n => further n
    else if c = '\r' || c = '\n' then
      let n := spanLength isSpace (c :: text)
      let behind := (c :: text).drop n
      match commentLength behind with
      | 0 => if behind.head? = some q then some (n + 1) else none
      | m => further (n + m)
    else further 1

def stringLength : List Char → Nat
  | q :: text =>
    if q = '\'' || q = '"' then
      match bodyLength q (text.length + 1) text with
      | some n => n + 1
      | none => 0
    else 0
  | [] => 0

def templateLength : List Char → Nat
  | '$' :: '\x7b' :: _ => 0
  | c :: text =>
    if c = '`' || c = '\\' || c = '\x00' then 0 else templateLength text + 1
  | [] => 0

/-- The length of the pattern of a regular expression up to its slash. `inClass` tells whether a
character class is open, in which a slash is a character. -/
def patternLength (inClass : Bool) : List Char → Nat
  | '\\' :: c :: text => if c = '\n' || c = '\x00' then 0 else patternLength inClass text + 2
  | c :: text =>
    if c = '\n' || c = '\x00' || c = '\\' then 0
    else if inClass then patternLength (c ≠ ']') text + 1
    else if c = '/' then 0
    else patternLength (c = '[') text + 1
  | [] => 0

def commentsLength : Nat → List Char → Nat
  | 0, _ => 0
  | fuel + 1, text =>
    let n := spanLength isSpace text
    match commentLength (text.drop n) with
    | 0 => 0
    | m => n + m + commentsLength fuel (text.drop (n + m))

def flagsLength : Nat → List Char → Nat
  | 0, _ => 0
  | fuel + 1, text =>
    match spanLength (fun c => 'a' ≤ c && c ≤ 'z') text with
    | 0 =>
      let blank := spanLength (fun c => isPlainSpace c && c ≠ '\n') text
      match text.drop blank with
      | '/' :: '*' :: behind =>
        let n := commentLength ('/' :: '*' :: behind)
        match flagsLength fuel (behind.drop (n - 2)) with
        | 0 => 0
        | m => if n = 0 then 0 else blank + n + m
      | _ => 0
    | n => n

def regexLength : List Char → Nat
  | '/' :: text =>
    let lead := commentsLength text.length text
    let n := patternLength false (text.drop lead)
    let behind := text.drop (lead + n)
    if 0 < n && behind.head? = some '/' then
      lead + n + 2 + flagsLength behind.length (behind.drop 1)
    else 0
  | _ => 0

end Glean.Script
