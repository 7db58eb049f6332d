import Glean.Range
import Glean.Settings.CommandLine
import Glean.Settings.File

set_option autoImplicit false

/-!
# Settings

Each setting is decided by the first of command line, environment, settings file and default that
gives it.
-/
namespace Glean

structure Settings where
  suffixes : List String
  exclusion : Option String
  range : String
  output : String
  format : Format
  deriving DecidableEq, Repr

namespace Settings

def defaultSuffixes : List String := ["js", "jsx", "vue", "html", "json"]

def default : Settings := ⟨defaultSuffixes, none, Range.default, "output.csv", .csv⟩

def trimSuffix (s : String) : String :=
  String.ofList ((Text.trim s.toList).dropWhile (· = '.'))

def normalizeSuffixes (list : List String) : List String :=
  (list.map trimSuffix).filter (· ≠ "")

def suffixes? (given : Option (List String)) : Option (List String) :=
  (given.map normalizeSuffixes).filter (· ≠ [])

/-- Puts what is given in the place of the defaults. An empty exclusion excludes nothing. -/
def merge (c : CommandLine) (f : FileSettings) : Settings where
  suffixes := (suffixes? (c.suffixes.or f.suffixes)).getD default.suffixes
  exclusion := (c.exclusion.or f.exclusion).filter (· ≠ "")
  range := (c.range.or f.range).getD default.range
  output := (c.output.or f.output).getD default.output
  format := (c.format.or f.format).getD default.format

def resolve (t : FileTree) (c : CommandLine) : Except Failure Settings := do
  match c.config with
  | some path => return merge c (← FileSettings.load t path)
  | none => return merge c {}

/-- Where the report goes. A comma separated report always has the extension for it. -/
def reportPath (s : Settings) : String :=
  match s.format with
  | .csv => if Path.extension? s.output = some "csv" then s.output else s.output ++ ".csv"
  | .json => s.output

end Settings

end Glean
