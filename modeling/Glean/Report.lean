import Glean.Report.Csv
import Glean.Report.Json

set_option autoImplicit false

/-!
# Reports

The two formats of a report and their text.
-/
namespace Glean

inductive Format
  | csv
  | json
  deriving DecidableEq, Repr

/-- A format's name is also the usual extension of its files. -/
def Format.name : Format → String
  | .csv => "csv"
  | .json => "json"

def Format.ofName? : String → Option Format
  | "csv" => some .csv
  | "json" => some .json
  | _ => none

namespace Report

def render (format : Format) (records : List Record) : String :=
  match format with
  | .csv => String.ofList (Csv.encode records)
  | .json => String.ofList (Json.encode records)

end Report

end Glean
