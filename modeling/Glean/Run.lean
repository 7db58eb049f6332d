import Glean.Log
import Glean.Search

set_option autoImplicit false

/-!
# Runs

A run of the program from its arguments to what can be seen of it: the exit code, what it prints,
what it logs and the files as they are afterwards. Whatever is wrong with the command line, the
settings, the range, the exclusion, the inputs or the number of workers stops a run before any file
is read.
-/
namespace Glean

/-- What can be seen of a run. The summary is kept apart where it does not go with what is printed.
-/
structure Run where
  exitCode : UInt8 := 0
  output : String := ""
  notes : List Note := []
  summary : Option String := none
  failure : Option Failure := none
  report : Option String := none
  files : FileTree

namespace Run

def levelVariable : String := "RUST_LOG"

def versionLine : String := "extract-text 0.3.0\n"

def level (c : CommandLine) (env : CommandLine.Environment) : Level :=
  ((env.lookup levelVariable).bind Level.ofEnvironment?).getD c.level

def ofUsage (t : FileTree) : Usage → Run
  | .help => { files := t }
  | .version => { output := versionLine, files := t }
  | _ => { exitCode := 2, files := t }

def ofFailure (t : FileTree) (f : Failure) : Run :=
  { exitCode := f.exitCode, failure := some f, files := t }

/-- What has to be known before the first file is read. -/
structure Plan where
  settings : Settings
  search : Search
  paths : List String

def plan (host : Host) (t : FileTree) (c : CommandLine) : Except Failure Plan := do
  let settings ← Settings.resolve t c
  let search ← Search.ofSettings host settings
  let paths ← t.collect c.paths
  host.hire c.jobs
  return { settings, search, paths }

def carryOut (t : FileTree) (c : CommandLine) (level : Level) (p : Plan) : Run :=
  let outcomes := p.paths.map (p.search.visit t)
  let tally := Tally.ofOutcomes outcomes
  let notes := (List.zipWith Note.ofOutcome p.paths outcomes).filter
    fun note => note.level.rank ≤ level.rank
  let format := p.settings.format
  if c.stdout then
    { output := Report.render format tally.records ++ "\n", notes, summary := some tally.summary,
      files := t }
  else
    let path := p.settings.reportPath
    let output := "\n" ++ tally.summary ++ "\n\n"
    match Report.write t path format tally.records with
    | .ok files =>
      let wrote := s!"Wrote {tally.records.length} records to {path}\n"
      { output := output ++ wrote, notes, report := some path, files }
    | .error f => { ofFailure (t.unwritten path) f with output, notes }

end Run

def run (host : Host) (t : FileTree) (args : List String) (env : CommandLine.Environment) : Run :=
  match CommandLine.read args env with
  | .error usage => Run.ofUsage t usage
  | .ok c =>
    match Run.plan host t c with
    | .error f => Run.ofFailure t f
    | .ok p => Run.carryOut t c (Run.level c env) p

end Glean
