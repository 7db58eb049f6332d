import Glean.Record

set_option autoImplicit false

/-!
# Comma separated reports

Text fields stand between quotes, a quote inside is written twice, and nothing else is escaped: line
breaks stay inside the quotes. Numbers are bare. Rows are separated by a line feed; the first row
holds the labels.
-/
namespace Glean.Csv

/-- The inside of a quoted field: a quote is written twice. -/
def double : List Char → List Char
  | [] => []
  | c :: text => if c = '"' then '"' :: '"' :: double text else c :: double text

def quote (field : List Char) : List Char := '"' :: (double field ++ ['"'])

def join : List (List Char) → List Char
  | [] => []
  | [field] => field
  | field :: fields => field ++ ',' :: join fields

def header : List Char := join (Record.labels.map fun label => quote label.toList)

def row (r : Record) : List Char :=
  join [quote r.file.toList, Nat.toDigits 10 r.line, quote r.source.name.toList,
    quote r.text.toList]

def encode (records : List Record) : List Char :=
  header ++ records.flatMap fun r => '\n' :: row r

end Glean.Csv
