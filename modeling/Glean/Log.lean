import Glean.Outcome
import Glean.Settings.CommandLine

set_option autoImplicit false

/-!
# Logs

The lines of a log tell what became of a file. How much is told is decided by a level: that of the
environment if it names one, and otherwise that of the command line.
-/
namespace Glean

inductive Level
  | off
  | error
  | warn
  | info
  | debug
  | trace
  deriving DecidableEq, Repr

namespace Level

def rank : Level → Nat
  | off => 0
  | error => 1
  | warn => 2
  | info => 3
  | debug => 4
  | trace => 5

def name : Level → String
  | off => "off"
  | error => "error"
  | warn => "warn"
  | info => "info"
  | debug => "debug"
  | trace => "trace"

def all : List Level := [off, error, warn, info, debug, trace]

def read? (text : List Char) : Option Level :=
  all.find? fun l => text.map Char.toLower = l.name.toList || text = Nat.toDigits 10 l.rank

/-- Reads one part of what the environment says about levels: a level for everything, or the name
of a topic with or without a level, which is of no matter here. -/
def readPart (l : Level) (text : List Char) : Option Level :=
  match read? text with
  | some new => some new
  | none =>
    let topic := text.takeWhile fun c => c.isAlphanum || c = '_' || c = ':' || c = '-'
    let behind := text.drop topic.length
    if topic = [] then none
    else
      match behind with
      | [] => some l
      | '=' :: level => if level = [] ∨ (read? level).isSome then some l else none
      | _ => none

def ofEnvironment? (text : String) : Option Level :=
  let parts := (text.toList.splitOnP (· = ',')).filter (· ≠ [])
  if parts = [] then some error else parts.foldlM readPart off

end Level

def CommandLine.level (c : CommandLine) : Level :=
  if c.verbose then .debug else if c.quiet then .warn else .info

inductive Note
  | succeeded (path : String)
  | failed (path : String)
  | skipped (path : String)
  deriving DecidableEq, Repr

namespace Note

def level : Note → Level
  | succeeded _ => .info
  | failed _ => .info
  | skipped _ => .debug

def text : Note → String
  | succeeded path => "INFO Process file succeeded: " ++ path
  | failed path => "INFO Process file failed: " ++ path
  | skipped path => "DEBUG Skip file: " ++ path

def ofOutcome (path : String) : Outcome → Note
  | .skipped => skipped path
  | .extracted _ _ => succeeded path
  | .failed _ => failed path

end Note

end Glean
