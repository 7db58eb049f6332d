import Glean.Failure
import Glean.Pattern.Reader

set_option autoImplicit false

/-!
# Ranges and exclusions

A range is the inside of a bracketed class; a text is in range if that class, read as a pattern,
occurs in it. An exclusion is a pattern of its own.
-/
namespace Glean

/-- The CJK unified ideographs. -/
def Range.default : String := "\\u4e00-\\u9fff"

structure Range where
  spec : String
  pattern : Pattern.Expr

namespace Range

def classOf (spec : String) : String := "[" ++ spec ++ "]"

def read (spec : String) : Except Failure Range :=
  match Pattern.read (classOf spec) with
  | .ok pattern => .ok ⟨spec, pattern⟩
  | .error fault => .error (.badRange spec fault.message)

def test (r : Range) (text : String) : Bool := r.pattern.occursIn text.toList

end Range

def readExclusion (pattern : String) : Except Failure Pattern.Expr :=
  match Pattern.read pattern with
  | .ok e => .ok e
  | .error fault => .error (.badExclusion pattern fault.message)

end Glean
