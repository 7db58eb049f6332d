import Glean.FileTree
import Glean.Report

set_option autoImplicit false

/-!
# Report files

A comma separated report file begins with a byte order mark, a JSON one does not. The folders above
a report file are made when they are missing.
-/
namespace Glean.Report

def mark : Char := '\uFEFF'

def fileText (format : Format) (records : List Record) : String :=
  match format with
  | .csv => String.ofList [mark] ++ render .csv records
  | .json => render .json records

def fileBytes (format : Format) (records : List Record) : List UInt8 :=
  (fileText format records).toUTF8.toList

def write (t : FileTree) (path : String) (format : Format) (records : List Record) :
    Except Failure FileTree :=
  match t.write path (fileBytes format records) with
  | some t => .ok t
  | none => .error (.notWritten path "not a place for a file")

end Glean.Report
