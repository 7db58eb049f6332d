set_option autoImplicit false

/-!
# Records

A record is one find: a fragment of text, where it stands, and in which kind of source.
-/
namespace Glean

/-- The kind of source a fragment was found in: a string literal of a script, or text or an
attribute value of markup. -/
inductive Source
  | script
  | markup
  deriving DecidableEq, Repr

def Source.name : Source → String
  | .script => "script"
  | .markup => "markup"

def Source.ofName? : String → Option Source
  | "script" => some .script
  | "markup" => some .markup
  | _ => none

theorem Source.ofName?_name (s : Source) : Source.ofName? s.name = some s := by
  cases s <;> rfl

/-- One find. The line is counted from 1 in the file as it is stored. -/
structure Record where
  file : String
  line : Nat
  source : Source
  text : String
  deriving DecidableEq, Repr

def Record.labels : List String := ["file name", "line no", "source type", "text"]

end Glean
