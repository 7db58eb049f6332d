import Glean.Record
import Glean.Range
import Glean.Lines
import Glean.Script.Token

set_option autoImplicit false

/-!
# The text of data

The grammar of JSON, as trees that keep every character. What a tree is made of is well-formed by
itself, so a tree is a text that is well-formed, and its strings are known with their places.
-/
namespace Glean.Data

/-- What is found by going through a list holds of all that is in it. To decide that as it stands
would go through all characters there are. -/
theorem forall_mem_of_all {l : List Char} {p : Char → Prop} [DecidablePred p]
    (h : l.all (fun c => decide (p c)) = true) : ∀ c ∈ l, p c := by
  simpa only [List.all_eq_true, decide_eq_true_eq] using h

def isBlank (c : Char) : Bool := c = ' ' || c = '\t' || c = '\n' || c = '\r'

/-- White space, or nothing. -/
structure Gap where
  text : List Char
  blank : ∀ c ∈ text, isBlank c = true

def Gap.empty : Gap := ⟨[], fun _ h => absurd h List.not_mem_nil⟩

/-- The characters that stand for themselves in a string. -/
def isPlain (c : Char) : Bool := '\x20' ≤ c && c ≠ '"' && c ≠ '\\'

/-- The characters that make an escape behind a backslash. -/
def escapes : List Char := "\"\\/bfnrt".toList

inductive Piece
  | plain (c : Char) (h : isPlain c = true)
  | escape (c : Char) (h : c ∈ escapes)
  | unit (a b c d : Char) (h : ∀ x ∈ [a, b, c, d], Script.isHex x = true)

def Piece.text : Piece → List Char
  | plain c _ => [c]
  | escape c _ => ['\\', c]
  | unit a b c d _ => ['\\', 'u', a, b, c, d]

structure Quoted where
  pieces : List Piece

/-- What stands between the quotes, escapes as they are written. -/
def Quoted.body (s : Quoted) : List Char := s.pieces.flatMap Piece.text

def Quoted.text (s : Quoted) : List Char := '"' :: (s.body ++ ['"'])

structure Digits where
  first : Char
  others : List Char
  digits : ∀ c ∈ first :: others, c.isDigit = true

def Digits.text (d : Digits) : List Char := d.first :: d.others

structure Exponent where
  mark : Char
  sign : List Char
  digits : Digits
  isMark : mark = 'e' ∨ mark = 'E'
  isSign : sign = [] ∨ sign = ['+'] ∨ sign = ['-']

def Exponent.text (e : Exponent) : List Char := e.mark :: (e.sign ++ e.digits.text)

/-- A number. Its whole part begins with zero only if it is zero. -/
structure Number where
  isNegative : Bool
  whole : Digits
  fraction : Option Digits
  exponent : Option Exponent
  canonical : whole.first = '0' → whole.others = []

namespace Number

def fractionText (n : Number) : List Char :=
  match n.fraction with
  | none => []
  | some digits => '.' :: digits.text

def exponentText (n : Number) : List Char :=
  match n.exponent with
  | none => []
  | some e => e.text

/-- A number without its sign. -/
def magnitude (n : Number) : List Char := n.whole.text ++ (n.fractionText ++ n.exponentText)

def text (n : Number) : List Char := if n.isNegative then '-' :: n.magnitude else n.magnitude

end Number

inductive Word
  | true
  | false
  | null

def Word.name : Word → String
  | true => "true"
  | false => "false"
  | null => "null"

def Word.text (w : Word) : List Char := w.name.toList

inductive Kind
  | array
  | object

def Kind.opening : Kind → Char
  | array => '['
  | object => '\x7b'

def Kind.closing : Kind → Char
  | array => ']'
  | object => '\x7d'

/-- What stands in front of a value in a list: in an object its name and a colon. -/
inductive Label : Kind → Type
  | none : Label .array
  | name (s : Quoted) (behind after : Gap) : Label .object

def Label.text {k : Kind} : Label k → List Char
  | none => []
  | name s behind after => s.text ++ (behind.text ++ ':' :: after.text)

mutual

inductive Value
  | word (w : Word)
  | number (n : Number)
  | string (s : Quoted)
  | empty (k : Kind) (gap : Gap)
  | list (k : Kind) (items : Items k)

/-- One item or more, with commas between them. -/
inductive Items : Kind → Type
  | last {k : Kind} (before : Gap) (label : Label k) (value : Value) (behind : Gap) : Items k
  | more {k : Kind} (before : Gap) (label : Label k) (value : Value) (behind : Gap)
      (others : Items k) : Items k

end

mutual

def Value.text : Value → List Char
  | .word w => w.text
  | .number n => n.text
  | .string s => s.text
  | .empty k gap => k.opening :: (gap.text ++ [k.closing])
  | .list k items => k.opening :: (items.text ++ [k.closing])

def Items.text {k : Kind} : Items k → List Char
  | .last before label value behind => before.text ++ (label.text ++ (value.text ++ behind.text))
  | .more before label value behind others =>
    before.text ++ (label.text ++ (value.text ++ (behind.text ++ ',' :: others.text)))

end

/-- A string with the offset of its first quote. -/
structure Standing where
  start : Nat
  string : Quoted

def Label.strings {k : Kind} (o : Nat) : Label k → List Standing
  | none => []
  | name s _ _ => [⟨o, s⟩]

mutual

/-- The strings of a value that stands at `o`, names of members included, in order. -/
def Value.strings (o : Nat) : Value → List Standing
  | .string s => [⟨o, s⟩]
  | .list k items => items.strings (o + k.opening.utf8Size)
  | _ => []

def Items.strings (o : Nat) {k : Kind} : Items k → List Standing
  | .last before label value _ =>
    let o := o + byteSize before.text
    label.strings o ++ value.strings (o + byteSize label.text)
  | .more before label value behind others =>
    let o := o + byteSize before.text
    let stop := o + byteSize label.text + byteSize value.text + byteSize behind.text
    label.strings o ++ (value.strings (o + byteSize label.text) ++ others.strings (stop + 1))

end

structure Document where
  before : Gap
  value : Value
  behind : Gap

namespace Document

/-- An object of one member, with a blank behind the colon. -/
def member (name string : Quoted) : Document :=
  let blank : Gap := ⟨[' '], forall_mem_of_all rfl⟩
  let items : Items .object := .last .empty (.name name .empty blank) (.string string) .empty
  ⟨.empty, .list .object items, .empty⟩

def text (d : Document) : List Char := d.before.text ++ (d.value.text ++ d.behind.text)

def strings (d : Document) : List Standing := d.value.strings (byteSize d.before.text)

/-- The records of the strings in range, each with the line of its first quote. -/
def records (d : Document) (r : Range) (file : String) : List Record :=
  (d.strings.filter fun s => r.test (String.ofList s.string.body)).map fun s =>
    ⟨file, Lines.lineAt d.text s.start, .script, String.ofList s.string.body⟩

end Document

end Glean.Data
