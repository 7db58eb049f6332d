import Glean.Failure
import Glean.FileTree
import Glean.Report
import Glean.Settings.Toml
import Glean.Text.Utf8

set_option autoImplicit false

/-!
# Settings files

Every setting of a file is optional, no other key may stand in it, and no setting may be given
twice. A format is named by a string or by a table whose only key is the name, with nothing in it.
-/
namespace Glean

structure FileSettings where
  suffixes : Option (List String) := none
  exclusion : Option String := none
  range : Option String := none
  output : Option String := none
  format : Option Format := none
  deriving DecidableEq, Repr

namespace FileSettings

inductive Place
  | top
  | format
  | variant
  deriving DecidableEq, Repr

/-- What was read of a file so far: its settings, the place of the next line, whether the format's
table has a header, and whether its name was given in a dotted key. -/
structure Draft where
  settings : FileSettings := {}
  place : Place := .top
  hasHeader : Bool := false
  isDotted : Bool := false
  deriving Repr

def text? : Toml.Value → Option String
  | .text s => some (String.ofList s)
  | _ => none

def texts? : Toml.Value → Option (List String)
  | .list vs => vs.mapM text?
  | _ => none

def isEmpty : Toml.Value → Bool
  | .list [] => true
  | .table [] => true
  | _ => false

/-- The format that a key of the format's table names, if nothing stands under it. -/
def variant? (name : List Char) (v : Toml.Value) : Option Format :=
  if isEmpty v then Format.ofName? (String.ofList name) else none

def format? : Toml.Value → Option Format
  | .text s => Format.ofName? (String.ofList s)
  | .table [(name, v)] => variant? name v
  | _ => none

def once {α : Type} (old : Option α) (new : Option α) : Option (Option α) :=
  match old, new with
  | none, some a => some (some a)
  | _, _ => none

def set (s : FileSettings) (key : List Char) (v : Toml.Value) : Option FileSettings :=
  match String.ofList key with
  | "suffixes" => (once s.suffixes (texts? v)).map fun x => { s with suffixes := x }
  | "exclude" => (once s.exclusion (text? v)).map fun x => { s with exclusion := x }
  | "range" => (once s.range (text? v)).map fun x => { s with range := x }
  | "output" => (once s.output (text? v)).map fun x => { s with output := x }
  | "format" => (once s.format (format? v)).map fun x => { s with format := x }
  | _ => none

def setVariant (s : FileSettings) (name : List Char) (v : Toml.Value) : Option FileSettings :=
  (once s.format (variant? name v)).map fun x => { s with format := x }

def Draft.step (d : Draft) : Toml.Statement → Option Draft
  | .pair [k] v =>
    match d.place with
    | .top => (d.settings.set k v).map fun s => { d with settings := s }
    | .format => (d.settings.setVariant k v).map fun s => { d with settings := s }
    | .variant => none
  | .pair [table, name] v =>
    if d.place = .top ∧ table = "format".toList then
      (d.settings.setVariant name v).map fun s => { d with settings := s, isDotted := true }
    else none
  | .header [table] =>
    let isOpen := d.settings.format = none ∨ d.place = .variant
    if table = "format".toList ∧ isOpen ∧ !d.hasHeader ∧ !d.isDotted then
      some { d with place := .format, hasHeader := true }
    else none
  | .header [table, name] =>
    if table = "format".toList then
      (d.settings.setVariant name (.table [])).map fun s =>
        { d with settings := s, place := .variant }
    else none
  | _ => none

def ofStatements (lines : List Toml.Statement) : Option FileSettings := do
  let d ← lines.foldlM Draft.step {}
  if d.hasHeader ∧ d.settings.format = none then none else some d.settings

def read (text : List Char) : Option FileSettings := (Toml.read text).bind ofStatements

def load (t : FileTree) (path : String) : Except Failure FileSettings :=
  match t.read? path with
  | none => .error (.badSettings path "not a readable file")
  | some bytes =>
    match Text.decodeExact bytes with
    | none => .error (.badSettings path "stream did not contain valid UTF-8")
    | some text =>
      match read text with
      | some settings => .ok settings
      | none => .error (.badSettings path "not a settings file")

end FileSettings

end Glean
