import Glean.Markup.Document
import Glean.Script.Strings

set_option autoImplicit false

/-!
# Fragments

What is read of a page, in order: the values of attributes, runs of text and scripts. Each of them
is read by itself, so a script that cannot be read takes nothing from the rest of the page.
-/
namespace Glean.Markup

inductive Fragment
  | value (v : Value)
  | text (start : Nat) (content : List Char)
  | script (start : Nat) (language : Language) (content : List Char)
  deriving DecidableEq, Repr

mutual

/-- A tag's attributes stand in front of what is inside it. -/
def Item.fragments : Item → List Fragment
  | .tag _ _ attributes children =>
    (attributes.filterMap (·.value)).map .value ++ fragmentsOf children
  | .text start content => [.text start content]
  | .script start language content => [.script start language content]
  | .style _ => []
  | .comment _ => []

def fragmentsOf : List Item → List Fragment
  | [] => []
  | item :: items => item.fragments ++ fragmentsOf items

end

structure Finds where
  records : List Record := []
  scriptFailures : Nat := 0
  deriving DecidableEq, Repr

def find (r : Range) (file : String) (line : Nat) (text : List Char) : Finds :=
  let text := String.ofList text
  if r.test text then { records := [⟨file, line, .markup, text⟩] } else {}

/-- What is found in a fragment. Text is taken without the white space around it and stands on the
line on which the run begins. -/
def Fragment.finds (r : Range) (file : String) (index : Lines.Index) : Fragment → Finds
  | .value v =>
    if v.content.isEmpty then {} else find r file (index.lineAt v.start) v.content
  | .text start content =>
    let text := Text.trim content
    if text.isEmpty then {} else find r file (index.lineAt start) text
  | .script start language content =>
    if (Text.trim content).isEmpty then {}
    else
      match Script.records? r language file (index.lineAt start - 1) content with
      | some records => { records }
      | none => { scriptFailures := 1 }

def finds (r : Range) (file : String) (text : List Char) : Finds :=
  let index := Lines.Index.ofText text
  let all := (fragmentsOf (document text)).map (·.finds r file index)
  ⟨all.flatMap (·.records), total (all.map (·.scriptFailures))⟩

end Glean.Markup
