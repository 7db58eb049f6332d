import Glean.Record

set_option autoImplicit false

/-!
# JSON reports

An array of objects, one line a member, indented by two blanks a level. Quotes, backslashes and
control characters are escaped and every other character stands for itself.
-/
namespace Glean.Json

def hex4 (n : Nat) : List Char :=
  [n / 4096 % 16, n / 256 % 16, n / 16 % 16, n % 16].map Nat.digitChar

def escape (c : Char) : List Char :=
  match c with
  | '"' => ['\\', '"']
  | '\\' => ['\\', '\\']
  | '\x08' => ['\\', 'b']
  | '\x0c' => ['\\', 'f']
  | '\n' => ['\\', 'n']
  | '\r' => ['\\', 'r']
  | '\t' => ['\\', 't']
  | c => if c.toNat < 0x20 then '\\' :: 'u' :: hex4 c.toNat else [c]

def quote (text : List Char) : List Char := '"' :: (text.flatMap escape ++ ['"'])

/-- Members of an array or an object, each on its line behind `indent` blanks. -/
def lines (indent : Nat) : List (List Char) → List Char
  | [] => []
  | [member] => '\n' :: (List.replicate indent ' ' ++ member)
  | member :: members =>
    '\n' :: (List.replicate indent ' ' ++ member ++ ',' :: lines indent members)

def member (label : String) (value : List Char) : List Char :=
  quote label.toList ++ ':' :: ' ' :: value

def object (r : Record) : List Char :=
  let values := [quote r.file.toList, Nat.toDigits 10 r.line, quote r.source.name.toList,
    quote r.text.toList]
  '{' :: (lines 4 (List.zipWith member Record.labels values) ++ ['\n', ' ', ' ', '}'])

def encode (records : List Record) : List Char :=
  match records with
  | [] => ['[', ']']
  | records => '[' :: (lines 2 (records.map object) ++ ['\n', ']'])

end Glean.Json
