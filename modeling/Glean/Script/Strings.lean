import Glean.Literals
import Glean.Range
import Glean.Record
import Glean.Script.ImportCall

set_option autoImplicit false

/-!
# Strings

The records of a script: its string literals in range, without the quotes around them. A script that
is not well-formed has none. Lines are those of the file that the script is a part of.
-/
namespace Glean.Script

def dropQuote : List Char → List Char
  | [] => []
  | c :: text => if isQuote c then text else c :: text

def Literal.body (l : Literal) : List Char := (dropQuote (dropQuote l.text).reverse).reverse

/-- The record of a literal, if its text is in range. `before` lines stand in front of the script.
-/
def Literal.record? (l : Literal) (r : Range) (file : String) (before : Nat)
    (index : Lines.Index) : Option Record :=
  let text := String.ofList l.body
  if r.test text then some ⟨file, index.lineAt l.start + before, .script, text⟩ else none

def records? (r : Range) (l : Language) (file : String) (before : Nat) (code : List Char) :
    Option (List Record) :=
  let code := ImportCall.neutralize code
  let index := Lines.Index.ofText code
  (l.literals? code).map (·.filterMap (·.record? r file before index))

end Glean.Script
