import Glean.Range

set_option autoImplicit false

/-!
# Hosts

What a run takes from where it runs: how large a pattern may be once it is compiled, and how many
workers can be had together. Nothing is assumed of either, so a pattern that can be read may still
be refused.
-/
namespace Glean

/-- Which patterns stay within the limit on their size, and why so many workers cannot be had, if
they cannot. -/
structure Host where
  fits : String → Bool
  fault? : Nat → Option String

namespace Host

def ample : Host := ⟨fun _ => true, fun _ => none⟩

def allow {α : Type} (host : Host) (pattern : String) (failure : String → Failure)
    (read : Except Failure α) : Except Failure α := do
  let a ← read
  if host.fits pattern then return a else throw (failure Pattern.Fault.tooLarge.message)

def readRange (host : Host) (spec : String) : Except Failure Range :=
  host.allow (Range.classOf spec) (.badRange spec) (Range.read spec)

def readExclusion (host : Host) (pattern : String) : Except Failure Pattern.Expr :=
  host.allow pattern (.badExclusion pattern) (Glean.readExclusion pattern)

/-- Finds the workers for a number of jobs. One job needs none, and where no number is asked for
those are taken that there are. -/
def hire (host : Host) : Option Nat → Except Failure Unit
  | none => .ok ()
  | some 1 => .ok ()
  | some n =>
    match host.fault? n with
    | some reason => .error (.badSettings "--jobs" reason)
    | none => .ok ()

end Host

end Glean
