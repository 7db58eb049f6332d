import Glean.Markup.Automaton
import Glean.Markup.Page

set_option autoImplicit false

/-!
# Tokens of markup

In every mode the longest token is taken. Where no token is found it still matters how far a token
could have been followed: what was followed is passed over.
-/
namespace Glean.Markup

def isSpace (c : Char) : Bool := ('\t' ≤ c && c ≤ '\r') || c = ' '

/-- What was found at a place: the token with its end, if one was found, where it begins, and how
far a token could be followed. -/
structure Found where
  token : Option (Sym × Nat) := none
  start : Nat
  reach : Nat
  deriving Repr

def Found.one (start : Nat) (sym : Sym) : Found := ⟨some (sym, start + 1), start, start + 1⟩

def Found.run (start stop : Nat) (sym : Sym) : Found :=
  ⟨if start < stop then some (sym, stop) else none, start, stop⟩

def Page.spanUpTo (s : Page) (p : Char → Bool) (i n : Nat) : Nat := min (s.spanEnd p i) (i + n)

/-- An entity: letters, or a number in decimal or hexadecimal, behind `&`, with or without a
semicolon. -/
def entityAt (s : Page) (i : Nat) : Found :=
  let close (stop : Nat) : Found :=
    let stop := if s.char stop = ';' then stop + 1 else stop
    ⟨some (.entity, stop), i, stop⟩
  let digits (p : Char → Bool) (at' n : Nat) : Found :=
    let stop := s.spanUpTo p at' n
    if stop = at' then ⟨none, i, at'⟩ else close stop
  let c := s.char (i + 1)
  if c = '#' then
    let x := s.char (i + 2)
    if x = 'x' ∨ x = 'X' then digits isHex (i + 3) 6 else digits Char.isDigit (i + 2) 5
  else digits Char.isAlpha (i + 1) 30
where
  isHex (c : Char) : Bool := c.isDigit || ('a' ≤ c && c ≤ 'f') || ('A' ≤ c && c ≤ 'F')

def angleAt (s : Page) (i : Nat) : Found :=
  match s.char (i + 1) with
  | '!' => ⟨some (.declOpen, i + 2), i, i + 2⟩
  | '/' => ⟨some (.endOpen, i + 2), i, i + 2⟩
  | _ => .one i .tagOpen

def Page.wordAt (s : Page) : List Char → Nat → Nat
  | [], _ => 0
  | c :: word, i => if (s.char i).toLower = c then s.wordAt word (i + 1) + 1 else 0

def doctypeAt (s : Page) (i : Nat) : Found :=
  let n := s.wordAt "doctype".toList i
  if n = 7 then ⟨some (.doctypeWord, i + 7), i, i + 7⟩ else ⟨none, i, i + n⟩

def selfCloseAt (s : Page) (i : Nat) : Found :=
  if s.char (i + 1) = '>' then ⟨some (.selfClose, i + 2), i, i + 2⟩ else ⟨none, i, i + 1⟩

def endAt (s : Page) (i : Nat) : Found :=
  if s.size ≤ i then ⟨some (.stop, i), i, i⟩ else ⟨none, i, i⟩

/-- Text without white space at its ends. It ends before markup and entities. -/
def textAt (s : Page) (i : Nat) : Found :=
  let isText (c : Char) : Bool := c ≠ '<' && c ≠ '>' && c ≠ '&'
  let reach := s.spanEnd isText i
  if reach = i then ⟨none, i, i⟩
  else ⟨some (.text, lastSolid s reach (reach - i)), i, reach⟩
where
  lastSolid (s : Page) (stop : Nat) : Nat → Nat
    | 0 => stop
    | n + 1 => if isSpace (s.char (stop - 1)) then lastSolid s (stop - 1) n else stop

def isNameChar (c : Char) : Bool :=
  !isSpace c && c ≠ '<' && c ≠ '>' && c ≠ '"' && c ≠ '\'' && c ≠ '/' && c ≠ '='

def isValueChar (c : Char) : Bool :=
  !isSpace c && c ≠ '<' && c ≠ '>' && c ≠ '"' && c ≠ '\'' && c ≠ '='

def Quote.char : Quote → Char
  | .single => '\''
  | .double => '"'

def Mode.tokenAt (m : Mode) (s : Page) (i : Nat) : Found :=
  let c := s.char i
  match m with
  | .any =>
    match c with
    | '<' => angleAt s i
    | '>' => .one i .close
    | '/' => selfCloseAt s i
    | '=' => .one i .equals
    | '\'' => .one i (.quote .single)
    | '"' => .one i (.quote .double)
    | '&' => entityAt s i
    | 'd' => doctypeAt s i
    | 'D' => doctypeAt s i
    | _ => endAt s i
  | .content =>
    match c with
    | '<' => angleAt s i
    | '&' => entityAt s i
    | '>' => ⟨none, i, i⟩
    | _ => if i < s.size then textAt s i else endAt s i
  | .doctype => .run i (s.spanEnd (· ≠ '>') i) .doctypeText
  | .tag =>
    match c with
    | '>' => .one i .close
    | '/' => selfCloseAt s i
    | '=' => .one i .equals
    | _ => .run i (s.spanEnd isNameChar i) .attributeName
  | .value =>
    match c with
    | '\'' => .one i (.quote .single)
    | '"' => .one i (.quote .double)
    | _ => .run i (s.spanEnd isValueChar i) .attributeValue
  | .quoted q =>
    if c = q.char then .one i (.quote q) else .run i (s.spanEnd (· ≠ q.char) i) (.quoted q)

def Mode.keepsSpace : Mode → Bool
  | .doctype | .quoted _ => true
  | _ => false

/-- Where reading begins: a byte order mark in front of everything is passed over. -/
def Page.begin (s : Page) (i : Nat) : Nat :=
  if i = 0 ∧ s.char 0 = '\uFEFF' then 1 else i

def Mode.next (m : Mode) (s : Page) (i : Nat) : Found :=
  let i := s.begin i
  m.tokenAt s (if m.keepsSpace then i else s.spanEnd isSpace i)

end Glean.Markup
