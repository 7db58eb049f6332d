import Glean.FileTree
import Glean.Host
import Glean.Markup.Fragment
import Glean.Outcome
import Glean.Report.File
import Glean.Settings
import Glean.Text.Utf8

set_option autoImplicit false

/-!
# Searches

What is looked for, and in which files. A search does not change, so what becomes of a file depends
on nothing but that file.
-/
namespace Glean

structure Search where
  range : Range
  exclusion : Option Pattern.Expr
  suffixes : List String

namespace Search

/-- The search that settings ask for. The range is read first. -/
def ofSettings (host : Host) (s : Settings) : Except Failure Search := do
  let range ← host.readRange s.range
  match s.exclusion with
  | some pattern =>
    let exclusion ← host.readExclusion pattern
    return { range, exclusion := some exclusion, suffixes := s.suffixes }
  | none => return { range, exclusion := none, suffixes := s.suffixes }

def excludes (s : Search) (path : String) : Bool :=
  match s.exclusion with
  | some pattern => pattern.occursIn path.toList
  | none => false

def extension? (s : Search) (path : String) : Option String :=
  (Path.extension? path).filter fun e => s.suffixes.contains e && !s.excludes path

/-- What makes a script of data. -/
def dataLead : List Char := "var a = ".toList

def dropMark : List Char → List Char
  | [] => []
  | c :: text => if c = Report.mark then text else c :: text

def readScript (s : Search) (file : String) (l : Language) (code : List Char) : Outcome :=
  match Script.records? s.range l file 0 code with
  | some records => .extracted records 0
  | none => .failed 1

/-- What becomes of a text with an extension. One that names no language is read as a script. -/
def outcome (s : Search) (file extension : String) (text : List Char) : Outcome :=
  let text := dropMark text
  let language := (Language.ofExtension? extension).getD .javascript
  match language.family with
  | .script => s.readScript file language text
  | .data => s.readScript file language (dataLead ++ text)
  | .markup =>
    let finds := Markup.finds s.range file text
    .extracted finds.records finds.scriptFailures

def visitText (s : Search) (file : String) (text : List Char) : Outcome :=
  match s.extension? file with
  | some extension => s.outcome file extension text
  | none => .skipped

def visit (s : Search) (t : FileTree) (path : String) : Outcome :=
  match s.extension? path with
  | some extension =>
    match t.read? path with
    | some bytes => s.outcome path extension (Text.decode bytes)
    | none => .failed 0
  | none => .skipped

def visitAll (s : Search) (t : FileTree) (paths : List String) : Tally :=
  .ofOutcomes (paths.map (s.visit t))

end Search

end Glean
