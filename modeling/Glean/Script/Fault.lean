import Glean.Failure
import Glean.Script.Strings

set_option autoImplicit false

/-!
# Faults

What is told of a script that is not well-formed. Where only closing braces are missing at the end,
the place of the first of them is named, right behind the last token. Otherwise the script itself is
named.
-/
namespace Glean.Script

def excerptLength : Nat := 40

def excerpt (text : List Char) : List Char :=
  let shown := (text.take excerptLength).flatMap fun c => if c = '\n' then ['\\', 'n'] else [c]
  if excerptLength < text.length then shown ++ ['.', '.', '.'] else shown

def placeText (before : Nat) (place : Lines.Place) : String :=
  s!"{place.row + 1 + before}:{place.column + 1}"

def unexpected (code : List Char) (before : Nat) (l : Literal) : String :=
  s!"unexpected `{String.ofList (excerpt l.text)}` at {placeText before (l.place code)}"

/-- Whether a script would be well-formed with some closing braces behind it. -/
def lacksBraces (l : Language) (code : List Char) : Bool :=
  (List.range (code.count '\x7b')).any fun n =>
    (l.literals? (code ++ '\n' :: List.replicate (n + 1) '\x7d')).isSome

def fault (l : Language) (before : Nat) (code : List Char) : String :=
  let tokens := (code.reverse.dropWhile isSpace).reverse
  let stop := Lines.placeAt code (byteSize tokens)
  if lacksBraces l code then s!"missing `\x7d` at {placeText before stop}"
  else unexpected code before ⟨0, tokens⟩

def read (r : Range) (l : Language) (file : String) (before : Nat) (code : List Char) :
    Except Failure (List Record) :=
  match records? r l file before code with
  | some records => .ok records
  | none => .error (.badScript file (fault l before (ImportCall.neutralize code)))

end Glean.Script
