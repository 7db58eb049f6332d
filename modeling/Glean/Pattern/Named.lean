import Glean.Pattern.CharSet
import Glean.Pattern.Unicode.Category
import Glean.Pattern.Unicode.Property
import Glean.Pattern.Unicode.Script

set_option autoImplicit false

/-!
# Named sets of characters

Properties, general categories and scripts by name. Names are compared without regard to case,
blanks, underscores, hyphens and a leading `is`.
-/
namespace Glean.Unicode

def normalize (name : List Char) : List Char :=
  let isPrefixed : Bool :=
    match name with
    | a :: b :: _ => a.toLower = 'i' && b.toLower = 's'
    | _ => false
  let body := if isPrefixed then name.drop 2 else name
  let plain := (body.filter fun c => c ≠ ' ' ∧ c ≠ '_' ∧ c ≠ '-' ∧ c.toNat < 0x80).map Char.toLower
  if isPrefixed && plain = ['c'] then ['i', 's', 'c'] else plain

def listed? {α : Type} (table : List (List String × α)) (name : List Char) : Option α :=
  (table.find? fun e => e.1.any fun n => normalize n.toList = normalize name).map (·.2)

def category? (name : List Char) : Option CharSet :=
  match String.ofList (normalize name) with
  | "any" => some (.compl .none)
  | "ascii" => some (.range '\x00' '\x7F')
  | "assigned" => (listed? categories ['C', 'n']).map fun text => .compl (.ofText text)
  | _ =>
    match listed? categoryGroups name with
    | some members =>
      some (members.foldr (fun m s =>
        match listed? categories m.toList with
        | some text => .union (.ofText text) s
        | none => s) .none)
    | none => (listed? categories name).map .ofText

def script? (name : List Char) : Option CharSet := (listed? scripts name).map .ofText

def scriptExtension? (name : List Char) : Option CharSet :=
  (listed? scripts name).map fun text => .ofText ((listed? scriptExtensions name).getD text)

def property? (name : List Char) : Option CharSet := (listed? properties name).map .ofText

/-- A name alone stands for a property, a category or a script, in this order. Three short names
of categories are also short names of properties and mean the category. -/
def set? (name : List Char) : Option CharSet :=
  let short := String.ofList (normalize name)
  if short = "cf" ∨ short = "sc" ∨ short = "lc" then category? name
  else (property? name).or ((category? name).or (script? name))

/-- Word characters: letters, marks, digits, connectors and joiners. -/
def word : CharSet :=
  let named (table : List (List String × String)) (name : String) : CharSet :=
    ((listed? table name.toList).map CharSet.ofText).getD .none
  .union (named properties "Alphabetic") <| .union (named categories "Mn") <|
    .union (named categories "Mc") <| .union (named categories "Me") <|
    .union (named categories "Nd") <| .union (named categories "Pc")
      (named properties "Join_Control")

def digit : CharSet := (category? ['N', 'd']).getD .none

def space : CharSet := (property? "White_Space".toList).getD .none

def asciiWord : CharSet :=
  .union (.range 'a' 'z') (.union (.range 'A' 'Z') (.union (.range '0' '9') (.one '_')))

def asciiDigit : CharSet := .range '0' '9'

def asciiSpace : CharSet := .union (.range '\t' '\r') (.one ' ')

def posix? (name : List Char) : Option CharSet :=
  let lower : CharSet := .range 'a' 'z'
  let upper : CharSet := .range 'A' 'Z'
  let alpha : CharSet := .union lower upper
  let punct : CharSet :=
    .union (.range '!' '/') <| .union (.range ':' '@') <|
      .union (.range '[' '\x60') (.range '\x7B' '~')
  match String.ofList name with
  | "alnum" => some (.union alpha asciiDigit)
  | "alpha" => some alpha
  | "ascii" => some (.range '\x00' '\x7F')
  | "blank" => some (.union (.one '\t') (.one ' '))
  | "cntrl" => some (.union (.range '\x00' '\x1F') (.one '\x7F'))
  | "digit" => some asciiDigit
  | "graph" => some (.range '!' '~')
  | "lower" => some lower
  | "print" => some (.range ' ' '~')
  | "punct" => some punct
  | "space" => some (.union (.range '\t' '\r') (.one ' '))
  | "upper" => some upper
  | "word" => some asciiWord
  | "xdigit" =>
    some (.union asciiDigit (.union (.range 'A' 'F') (.range 'a' 'f')))
  | _ => none

end Glean.Unicode
