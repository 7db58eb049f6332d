import Glean.Pattern.Expr
import Glean.Pattern.Valued
import Glean.Text.Blank

set_option autoImplicit false

/-!
# Escapes

What a backslash and the characters behind it stand for. In spaced patterns blanks and comments may
stand between the characters of a numeric escape or a name.
-/
namespace Glean.Pattern

/-- Why a text is no pattern. What is `belowCharacters` could match a part of one. -/
inductive Fault
  | unclosedGroup
  | unopenedGroup
  | unclosedClass
  | nothingToRepeat
  | badCount
  | endsInEscape
  | unknownEscape
  | badCodePoint
  | badClassMember
  | reversedRange
  | unknownName
  | badGroupName
  | badFlags
  | lookAround
  | backReference
  | belowCharacters
  | tooDeep
  | tooLarge
  deriving DecidableEq, Repr

def Fault.message : Fault → String
  | unclosedGroup => "unclosed group"
  | unopenedGroup => "unopened group"
  | unclosedClass => "unclosed character class"
  | nothingToRepeat => "repetition operator missing expression"
  | badCount => "malformed repetition count"
  | endsInEscape => "incomplete escape sequence"
  | unknownEscape => "unrecognized escape sequence"
  | badCodePoint => "not a Unicode scalar value in hexadecimal"
  | badClassMember => "not a member of a character class"
  | reversedRange => "character class range must not end before it starts"
  | unknownName => "no such Unicode property"
  | badGroupName => "malformed or repeated capture group name"
  | badFlags => "malformed flags"
  | lookAround => "look-around is not supported"
  | backReference => "backreferences are not supported"
  | belowCharacters => "pattern can match invalid UTF-8"
  | tooDeep => "pattern is nested too deeply"
  | tooLarge => "pattern is too large"

structure Flags where
  ignoreCase : Bool := false
  multiLine : Bool := false
  dotAll : Bool := false
  anyLineEnd : Bool := false
  spaced : Bool := false
  unicode : Bool := true
  deriving DecidableEq, Repr

def dropSpaces : Bool → List Char → List Char
  | true, c :: cs => dropSpaces (c ≠ '\n') cs
  | false, c :: cs =>
    if Text.isBlank c then dropSpaces false cs
    else if c = '#' then dropSpaces true cs
    else c :: cs
  | _, [] => []

def Flags.skip (f : Flags) (cs : List Char) : List Char :=
  if f.spaced then dropSpaces false cs else cs

def Flags.behind (f : Flags) (cs : List Char) : List Char := f.skip cs.tail

/-- What is read at one place of a pattern, outside groups and classes. A character of which `byte` is
set was spelled by two hexadecimal digits. -/
inductive Atom
  | char (c : Char) (byte : Bool)
  | set (s : CharSet)
  | any
  | look (l : Look)
  deriving Repr

def charOf? (n : Nat) : Option Char :=
  if n < 0xD800 ∨ (0xDFFF < n ∧ n < 0x110000) then some (Char.ofNat n) else none

def charOfHex (byte : Bool) (digits rest : List Char) : Except Fault (Atom × List Char) :=
  match charOf? (Unicode.ofHex digits) with
  | some c => .ok (.char c byte, rest)
  | none => .error .badCodePoint

def isHex (c : Char) : Bool := (Unicode.hexValue? c).isSome

def hexDigits (f : Flags) : Nat → List Char → Except Fault (List Char × List Char)
  | 0, cs => .ok ([], cs)
  | _ + 1, [] => .error .endsInEscape
  | n + 1, c :: cs =>
    if isHex c then
      (hexDigits f n (f.skip cs)).map fun (ds, rest) => (c :: ds, rest)
    else .error .badCodePoint

def upToBrace (f : Flags) : Bool → List Char → Option (List Char × List Char)
  | _, [] => none
  | inComment, c :: cs =>
    if inComment then upToBrace f (c ≠ '\n') cs
    else if f.spaced && Text.isBlank c then upToBrace f false cs
    else if f.spaced && c = '#' then upToBrace f true cs
    else if c = '\x7d' then some ([], cs)
    else (upToBrace f false cs).map fun (inside, rest) => (c :: inside, rest)

def hexEscape (f : Flags) (width : Nat) (cs : List Char) : Except Fault (Atom × List Char) :=
  match f.skip cs with
  | [] => .error .endsInEscape
  | '\x7b' :: cs =>
    match upToBrace f false cs with
    | none => if cs.any (!isHex ·) then .error .badCodePoint else .error .endsInEscape
    | some (digits, rest) =>
      if digits = [] ∨ !digits.all isHex then .error .badCodePoint
      else charOfHex false digits (f.skip rest)
  | cs =>
    match hexDigits f width cs with
    | .error e => .error e
    | .ok (digits, rest) => charOfHex (width = 2) digits rest

/-- A set with its other cases added if case does not count, and then with its members and its
others exchanged if it is negated. -/
def Flags.finish (f : Flags) (negated : Bool) (s : CharSet) : CharSet :=
  let s := if f.ignoreCase then (if f.unicode then .folded s else .asciiFolded s) else s
  if negated then .compl s else s

def splitAtFirst (separator : List Char) : List Char → Option (List Char × List Char)
  | [] => none
  | c :: cs =>
    if separator.isPrefixOf (c :: cs) then some ([], (c :: cs).drop separator.length)
    else (splitAtFirst separator cs).map fun (a, b) => (c :: a, b)

def namedSet (name : List Char) : Option (CharSet × Bool) :=
  match splitAtFirst ['!', '='] name with
  | some (kind, value) => (Unicode.setOf? kind value).map (·, true)
  | none =>
    match splitAtFirst [':'] name with
    | some (kind, value) => (Unicode.setOf? kind value).map (·, false)
    | none =>
      match splitAtFirst ['='] name with
      | some (kind, value) => (Unicode.setOf? kind value).map (·, false)
      | none => (Unicode.set? name).map (·, false)

def unicodeSet (f : Flags) (negated : Bool) (cs : List Char) : Except Fault (Atom × List Char) :=
  let close (found : Option (CharSet × Bool)) (rest : List Char) :
      Except Fault (Atom × List Char) :=
    match found with
    | none => .error .unknownName
    | some (s, unlike) =>
      if f.unicode then .ok (.set (f.finish (negated != unlike) s), rest)
      else .error .belowCharacters
  match f.skip cs with
  | [] => .error .endsInEscape
  | '\x7b' :: cs =>
    match upToBrace f false cs with
    | none => .error .endsInEscape
    | some (name, rest) => close (namedSet name) rest
  | '\\' :: _ => .error .unknownName
  | c :: cs => close ((Unicode.set? [c]).map (·, false)) (f.skip cs)

def letterSet (f : Flags) (letter : Char) : Except Fault CharSet :=
  let s : CharSet :=
    match letter.toLower, f.unicode with
    | 'd', true => Unicode.digit
    | 's', true => Unicode.space
    | 'w', true => Unicode.word
    | 'd', false => Unicode.asciiDigit
    | 's', false => Unicode.asciiSpace
    | _, _ => Unicode.asciiWord
  if letter.isUpper then
    if f.unicode then .ok (.compl s) else .error .belowCharacters
  else .ok s

def isMeta (c : Char) : Bool := "\\.+*?()|[]\x7b\x7d^$#&-~".toList.contains c

/-- Whether a backslash in front of a character changes nothing: ASCII without letters, digits and
angle brackets. -/
def isEscapable (c : Char) : Bool :=
  isMeta c || (c.toNat < 0x80 && !c.isAlphanum && c ≠ '<' && c ≠ '>')

def namedBoundary (f : Flags) (cs : List Char) : Except Fault (Option Look × List Char) :=
  let isNameChar (c : Char) : Bool := c.isAlpha || c = '-'
  match cs with
  | '\x7b' :: inside =>
    match f.skip inside with
    | [] => .error .badCount
    | c :: rest =>
      if isNameChar c then
        match upToBrace f false (c :: rest) with
        | none => .error .unknownEscape
        | some (name, rest) =>
          let ascii := !f.unicode
          match String.ofList name with
          | "start" => .ok (some (.wordStart ascii), rest)
          | "end" => .ok (some (.wordStop ascii), rest)
          | "start-half" => .ok (some (.wordStartHalf ascii), rest)
          | "end-half" => .ok (some (.wordStopHalf ascii), rest)
          | _ => .error .unknownEscape
      else .ok (none, cs)
  | cs => .ok (none, cs)

def readEscape (f : Flags) (cs : List Char) : Except Fault (Atom × List Char) :=
  let ascii := !f.unicode
  match cs with
  | [] => .error .endsInEscape
  | c :: rest =>
    match c with
    | 'x' => hexEscape f 2 rest
    | 'u' => hexEscape f 4 rest
    | 'U' => hexEscape f 8 rest
    | 'p' => unicodeSet f false rest
    | 'P' => unicodeSet f true rest
    | 'd' | 's' | 'w' | 'D' | 'S' | 'W' => (letterSet f c).map fun s => (.set s, rest)
    | 'a' => .ok (.char '\x07' false, rest)
    | 'f' => .ok (.char '\x0C' false, rest)
    | 't' => .ok (.char '\t' false, rest)
    | 'n' => .ok (.char '\n' false, rest)
    | 'r' => .ok (.char '\r' false, rest)
    | 'v' => .ok (.char '\x0B' false, rest)
    | 'A' => .ok (.look .start, rest)
    | 'z' => .ok (.look .stop, rest)
    | 'B' => .ok (.look (.inside ascii), rest)
    | '<' => .ok (.look (.wordStart ascii), rest)
    | '>' => .ok (.look (.wordStop ascii), rest)
    | 'b' =>
      (namedBoundary f rest).map fun (l, rest) => (.look (l.getD (.boundary ascii)), rest)
    | c =>
      if c.isDigit then .error .backReference
      else if isEscapable c then .ok (.char c false, rest)
      else .error .unknownEscape

end Glean.Pattern
