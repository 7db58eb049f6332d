import Glean.Record

set_option autoImplicit false

/-!
# Outcomes and tallies

What became of one file, and the sum over a run. Adding outcomes one by one appends their records
and adds up their counts, so a tally is a sum of what its files contribute.
-/
namespace Glean

/-- What becomes of a file: it is left alone, it is read, where scripts inside it may have failed,
or it cannot be read as a whole. -/
inductive Outcome
  | skipped
  | extracted (records : List Record) (scriptFailures : Nat)
  | failed (scriptFailures : Nat)
  deriving DecidableEq, Repr

namespace Outcome

def records : Outcome → List Record
  | extracted records _ => records
  | _ => []

def scriptFailures : Outcome → Nat
  | skipped => 0
  | extracted _ n => n
  | failed n => n

end Outcome

structure Tally where
  records : List Record := []
  succeeded : Nat := 0
  failed : Nat := 0
  scriptsFailed : Nat := 0
  deriving DecidableEq, Repr

namespace Tally

def add (t : Tally) : Outcome → Tally
  | .skipped => t
  | .extracted records n =>
    { t with
      records := t.records ++ records
      succeeded := t.succeeded + 1
      scriptsFailed := t.scriptsFailed + n }
  | .failed n => { t with failed := t.failed + 1, scriptsFailed := t.scriptsFailed + n }

def ofOutcomes (outcomes : List Outcome) : Tally := outcomes.foldl add {}

def processed (t : Tally) : Nat := t.succeeded + t.failed

def summary (t : Tally) : String :=
  s!"Totally processed {t.processed} files, success: {t.succeeded}, failed: {t.failed} " ++
    s!"(script failed: {t.scriptsFailed})"

end Tally

end Glean
