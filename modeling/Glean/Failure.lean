set_option autoImplicit false

/-!
# Failures

What can stop a run or a file, with its wording and the exit code of a run that it stops.
-/
namespace Glean

inductive Failure
  | badRange (range reason : String)
  | badExclusion (pattern reason : String)
  | badSettings (origin reason : String)
  | badScript (file reason : String)
  | badMarkup (file reason : String)
  | noLanguage (reason : String)
  | missingInput (path : String)
  | notEncoded (reason : String)
  | notWritten (path reason : String)
  | system (reason : String)
  deriving DecidableEq, Repr

namespace Failure

def message : Failure → String
  | badRange range reason => s!"Invalid char range: {range} ({reason})"
  | badExclusion pattern reason => s!"Invalid regular expression: {pattern} ({reason})"
  | badSettings origin reason => s!"Invalid configuration ({origin}): {reason}"
  | badScript file reason =>
    s!"{file}: parse script failed, may contain grammatical errors: {reason}"
  | badMarkup file reason => s!"{file}: parse markup failed: {reason}"
  | noLanguage reason => s!"Failed to set language: {reason}"
  | missingInput path => s!"File not found: {path}"
  | notEncoded reason => s!"Failed to encode report: {reason}"
  | notWritten path reason => s!"Failed to write report to {path}: {reason}"
  | system reason => reason

/-- A failure of the settings stops a run before any file is looked at. -/
def isConfiguration : Failure → Bool
  | badRange .. | badExclusion .. | badSettings .. => true
  | _ => false

def exitCode (f : Failure) : UInt8 := if f.isConfiguration then 2 else 1

end Failure

end Glean
