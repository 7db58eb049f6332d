import Glean.Search

set_option autoImplicit false

/-!
# Workers

Some workers share the files of a run. A worker takes a file that nobody has taken, finds out what
becomes of it and puts that in the file's place. Who does what when is left open: a schedule is any
sequence of such moves.
-/
namespace Glean

namespace Workers

def put {α β : Type} [DecidableEq α] (f : α → β) (a : α) (b : β) : α → β :=
  fun x => if x = a then b else f x

/-- The files that nobody has taken, the file that each worker is busy with, and what was put in the
places of the files. -/
structure State (workers files : Nat) where
  untaken : List (Fin files)
  busy : Fin workers → Option (Fin files)
  places : Fin files → Option Outcome

inductive Move (workers files : Nat)
  | take (worker : Fin workers) (file : Fin files)
  | store (worker : Fin workers)
  deriving DecidableEq, Repr

def Move.taken? {workers files : Nat} : Move workers files → Option (Fin files)
  | take _ file => some file
  | store _ => none

namespace State

variable {workers files : Nat}

def start : State workers files := ⟨List.finRange files, fun _ => none, fun _ => none⟩

/-- A move, if it can be made. `outcome` tells what becomes of a file. -/
def move? (outcome : Fin files → Outcome) (s : State workers files) :
    Move workers files → Option (State workers files)
  | .take w i =>
    if s.busy w = none ∧ i ∈ s.untaken then
      some { s with untaken := s.untaken.erase i, busy := put s.busy w (some i) }
    else none
  | .store w =>
    match s.busy w with
    | some i =>
      some { s with busy := put s.busy w none, places := put s.places i (some (outcome i)) }
    | none => none

def run? (outcome : Fin files → Outcome) (s : State workers files)
    (schedule : List (Move workers files)) : Option (State workers files) :=
  schedule.foldlM (move? outcome) s

def IsOver (s : State workers files) : Prop := s.untaken = [] ∧ ∀ w, s.busy w = none

instance (s : State workers files) : Decidable s.IsOver :=
  inferInstanceAs (Decidable (_ ∧ _))

def outcomes? (s : State workers files) : Option (List Outcome) :=
  (List.finRange files).mapM s.places

end State

/-- How many workers there can be for a number of jobs: that many, or any number where none or no
such number is asked for. -/
def Serve (jobs : Option Nat) (workers : Nat) : Prop :=
  0 < workers ∧ ∀ n, jobs = some n → 0 < n → workers = n

end Workers

namespace Search

variable (s : Search) (t : FileTree) (paths : List String)

def visitAt (i : Fin paths.length) : Outcome := s.visit t paths[i]

def shared? {workers : Nat} (schedule : List (Workers.Move workers paths.length)) :
    Option Tally := do
  let state ← Workers.State.start.run? (s.visitAt t paths) schedule
  if state.IsOver then return .ofOutcomes (← state.outcomes?) else none

/-- What can be found with a number of jobs. One job is done without any workers. -/
inductive CanFind : Option Nat → Tally → Prop
  | alone : CanFind (some 1) (s.visitAll t paths)
  | shared {jobs : Option Nat} {workers : Nat}
      (schedule : List (Workers.Move workers paths.length)) (tally : Tally)
      (many : jobs ≠ some 1) (serve : Workers.Serve jobs workers)
      (found : s.shared? t paths schedule = some tally) : CanFind jobs tally

end Search

end Glean
