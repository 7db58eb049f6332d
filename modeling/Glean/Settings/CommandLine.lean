import Glean.Report
import Glean.Text.Blank

set_option autoImplicit false

/-!
# Command lines

Arguments are read from the left. An option takes its value from the same argument or the next one;
it is settled, and its value checked, when something else begins. A range and an output that the
arguments leave open are taken from the environment.
-/
namespace Glean

/-- Why a command line is not carried out. The last two are answers and no faults. -/
inductive Usage
  | missingArgument
  | unknownArgument
  | badValue
  | unreadableValue
  | conflict
  | needlessValue
  | help
  | version
  deriving DecidableEq, Repr

inductive Opt
  | exclude
  | suffix
  | output
  | range
  | format
  | config
  | jobs
  deriving DecidableEq, Repr

inductive Switch
  | stdout
  | verbose
  | quiet
  | help
  | version
  deriving DecidableEq, Repr

structure CommandLine where
  inputs : List String := []
  exclusion : Option String := none
  suffixes : Option (List String) := none
  output : Option String := none
  range : Option String := none
  format : Option Format := none
  config : Option String := none
  jobs : Option Nat := none
  stdout : Bool := false
  verbose : Bool := false
  quiet : Bool := false
  deriving DecidableEq, Repr

namespace CommandLine

def long? : String → Option (Opt ⊕ Switch)
  | "exclude" => some (.inl .exclude)
  | "suffix" => some (.inl .suffix)
  | "output" => some (.inl .output)
  | "range" => some (.inl .range)
  | "format" => some (.inl .format)
  | "config" => some (.inl .config)
  | "jobs" => some (.inl .jobs)
  | "stdout" => some (.inr .stdout)
  | "verbose" => some (.inr .verbose)
  | "quiet" => some (.inr .quiet)
  | "help" => some (.inr .help)
  | "version" => some (.inr .version)
  | _ => none

def short? : Char → Option (Opt ⊕ Switch)
  | 'e' => some (.inl .exclude)
  | 's' => some (.inl .suffix)
  | 'o' => some (.inl .output)
  | 'r' => some (.inl .range)
  | 'f' => some (.inl .format)
  | 'c' => some (.inl .config)
  | 'j' => some (.inl .jobs)
  | 'v' => some (.inr .verbose)
  | 'q' => some (.inr .quiet)
  | 'h' => some (.inr .help)
  | 'V' => some (.inr .version)
  | _ => none

def splitCommas (text : List Char) : List String :=
  (text.splitOnP (· = ',')).map String.ofList

def jobs? (text : List Char) : Option Nat :=
  let digits := match text with
    | '+' :: rest => rest
    | text => text
  if digits ≠ [] ∧ digits.all Char.isDigit then
    let n := digits.foldl (fun n d => n * 10 + (d.toNat - 0x30)) 0
    if n < 0x10000000000000000 then some n else none
  else none

def path? (text : List Char) : Option String :=
  if text = [] then none else some (String.ofList text)

/-- Gives an option that was not given its value; `fault` tells what is wrong with a value that
cannot be read. -/
def once {α : Type} (old : Option α) (fault : Usage) (new : Option α) : Except Usage (Option α) :=
  match old with
  | some _ => .error .conflict
  | none =>
    match new with
    | some a => .ok (some a)
    | none => .error fault

/-- Settles an option with its value. Only suffixes may be given again; they add up. -/
def assign (c : CommandLine) (o : Opt) (text : List Char) : Except Usage CommandLine :=
  match o with
  | .exclude => (once c.exclusion .badValue (some (String.ofList text))).map
      fun x => { c with exclusion := x }
  | .suffix => .ok { c with suffixes := some (c.suffixes.getD [] ++ splitCommas text) }
  | .output => (once c.output .badValue (path? text)).map fun x => { c with output := x }
  | .range =>
    (once c.range .badValue (some (String.ofList text))).map fun x => { c with range := x }
  | .format => (once c.format .badValue (Format.ofName? (String.ofList text))).map
      fun x => { c with format := x }
  | .config => (once c.config .badValue (path? text)).map fun x => { c with config := x }
  | .jobs => (once c.jobs .unreadableValue (jobs? text)).map fun x => { c with jobs := x }

def turnOn (c : CommandLine) (s : Switch) : Except Usage CommandLine :=
  match s with
  | .stdout => if c.stdout then .error .conflict else .ok { c with stdout := true }
  | .verbose => if c.verbose then .error .conflict else .ok { c with verbose := true }
  | .quiet => if c.quiet then .error .conflict else .ok { c with quiet := true }
  | .help => .error .help
  | .version => .error .version

/-- What was read so far: an option that is not settled, with its value if that was read, and
whether only inputs follow. -/
structure Reading where
  line : CommandLine := {}
  pending : Option (Opt × Option (List Char)) := none
  onlyInputs : Bool := false
  deriving Repr

namespace Reading

def settle (r : Reading) : Except Usage Reading :=
  match r.pending with
  | none => .ok r
  | some (_, none) => .error .badValue
  | some (o, some text) => (r.line.assign o text).map fun c => { r with line := c, pending := none }

def option (r : Reading) (o : Opt) (attached : Option (List Char)) : Except Usage Reading := do
  let r ← r.settle
  match attached with
  | some text => return { r with line := ← r.line.assign o text }
  | none => return { r with pending := some (o, none) }

def switch (r : Reading) (s : Switch) : Except Usage Reading := do
  let r ← r.settle
  return { r with line := ← r.line.turnOn s }

def input (r : Reading) (text : List Char) : Except Usage Reading := do
  let r ← r.settle
  return { r with line := { r.line with inputs := r.line.inputs ++ splitCommas text } }

def long (r : Reading) (text : List Char) : Except Usage Reading :=
  let name := text.takeWhile (· ≠ '=')
  let attached := match text.drop name.length with
    | [] => none
    | _ :: rest => some rest
  match long? (String.ofList name), attached with
  | none, _ => .error .unknownArgument
  | some (.inl o), attached => r.option o attached
  | some (.inr s), none => r.switch s
  | some (.inr _), some _ => .error .needlessValue

/-- Reads the letters behind one hyphen. What follows the letter of an option is its value. -/
def short : Reading → List Char → Except Usage Reading
  | r, [] => .ok r
  | r, c :: rest =>
    match short? c with
    | none => .error .unknownArgument
    | some (.inr s) => do short (← r.switch s) rest
    | some (.inl o) =>
      match rest with
      | [] => r.option o none
      | '=' :: value => r.option o (some value)
      | value => r.option o (some value)

def plain (r : Reading) (text : List Char) : Except Usage Reading :=
  match r.pending with
  | some (o, none) => .ok { r with pending := some (o, some text) }
  | _ => r.input text

def step (r : Reading) (arg : String) : Except Usage Reading :=
  let text := arg.toList
  if r.onlyInputs then r.input text
  else if r.pending matches some (.range, none) then r.plain text
  else
    match text with
    | ['-', '-'] => .ok { r with onlyInputs := true }
    | '-' :: '-' :: rest => r.long rest
    | ['-'] => r.plain text
    | '-' :: rest => r.short rest
    | text => r.plain text

end Reading

abbrev Environment := List (String × String)

def rangeVariable : String := "EXTRACT_TEXT_RANGE"

def outputVariable : String := "EXTRACT_TEXT_OUTPUT"

def fill (c : CommandLine) (env : Environment) : Except Usage CommandLine := do
  let c ← match c.output, env.lookup outputVariable with
    | none, some text => c.assign .output text.toList
    | _, _ => pure c
  match c.range, env.lookup rangeVariable with
  | none, some text => c.assign .range text.toList
  | _, _ => return c

def check (c : CommandLine) : Except Usage CommandLine :=
  if c.verbose && c.quiet then .error .conflict
  else if c.inputs.isEmpty then .error .missingArgument
  else .ok c

def read (args : List String) (env : Environment) : Except Usage CommandLine := do
  let r ← args.foldlM Reading.step {}
  let r ← r.settle
  (← r.line.fill env).check

def paths (c : CommandLine) : List String :=
  (c.inputs.map fun s => String.ofList (Text.trim s.toList)).filter (· ≠ "")

end CommandLine

end Glean
