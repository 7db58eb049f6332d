import Glean.Failure
import Glean.Path

set_option autoImplicit false

/-!
# File trees

The files a run can see, as a tree below the root, and the folder it runs in. A path is followed
piece by piece, and every piece but the last has to name a folder. Folders are listed in the order
of their names, and the folders of version control are left out.
-/
namespace Glean

inductive Entry
  | file (bytes : List UInt8)
  | folder (entries : List (String × Entry))

namespace Entry

def isFolder : Entry → Bool
  | file _ => false
  | folder _ => true

def child? (e : Entry) (name : String) : Option Entry :=
  match e with
  | file _ => none
  | folder entries => entries.lookup name

def find? (e : Entry) (names : List String) : Option Entry := names.foldlM child? e

def set (name : String) (new : Entry) : List (String × Entry) → List (String × Entry)
  | [] => [(name, new)]
  | (n, e) :: entries => if n = name then (n, new) :: entries else (n, e) :: set name new entries

def put : List String → Entry → Entry → Entry
  | [], _, new => new
  | _ :: _, file bytes, _ => file bytes
  | name :: names, folder entries, new =>
    folder (set name (put names ((entries.lookup name).getD (folder [])) new) entries)

end Entry

def isVersionControl (name : String) : Bool := name = ".git" || name = ".svn" || name = ".hg"

def Path.isLeftOut (path : String) : Bool := (Path.fileName? path).any isVersionControl

namespace Entry

mutual

/-- The paths of all files of an entry that itself has the given path. -/
def paths (path : String) : Entry → List String
  | file _ => [path]
  | folder entries =>
    ((members path entries).mergeSort fun a b => decide (a.1 ≤ b.1)).flatMap (·.2)

def members (path : String) : List (String × Entry) → List (String × List String)
  | [] => []
  | (name, e) :: entries =>
    (name, if isVersionControl name then [] else paths (Path.join path name) e) ::
      members path entries

end

end Entry

/-- All the files there are, and the names that lead from the root to the folder a run works in. -/
structure FileTree where
  root : Entry := .folder []
  working : List String := []

namespace FileTree

def isFolderAt (t : FileTree) (names : List String) : Bool :=
  match t.root.find? names with
  | some e => e.isFolder
  | none => false

def admits (name : String) : Bool :=
  0 < name.utf8ByteSize && name.utf8ByteSize ≤ 255 && !name.toList.contains '\x00'

/-- Follows one piece of a path. Above the root there is nothing but the root. -/
def follow (t : FileTree) (place : List String) (piece : List Char) : Option (List String) :=
  if t.isFolderAt place then
    match piece with
    | [] => some place
    | ['.'] => some place
    | ['.', '.'] => some place.dropLast
    | piece =>
      if admits (String.ofList piece) then some (place ++ [String.ofList piece]) else none
  else none

/-- Where a path begins and the pieces that lead on from there. With a slash in front it begins at
the root, otherwise in the working folder. -/
def route? (t : FileTree) (path : String) : Option (List String × List (List Char)) :=
  match Path.pieces path.toList with
  | [[]] => none
  | [] :: pieces => some ([], pieces)
  | pieces => some (t.working, pieces)

/-- The names that a path leads along from the root. The last of them need not exist. -/
def locate (t : FileTree) (path : String) : Option (List String) :=
  (t.route? path).bind fun (place, pieces) => pieces.foldlM (follow t) place

def entry? (t : FileTree) (path : String) : Option Entry :=
  (t.locate path).bind t.root.find?

def read? (t : FileTree) (path : String) : Option (List UInt8) :=
  match t.entry? path with
  | some (.file bytes) => some bytes
  | _ => none

/-- The files that inputs stand for: a file for itself, a folder for the files below it. -/
def collect (t : FileTree) (inputs : List String) : Except Failure (List String) :=
  match inputs with
  | [] => .ok []
  | input :: inputs =>
    match t.entry? input with
    | some e => (t.collect inputs).map (e.paths input ++ ·)
    | none => .error (.missingInput input)

def put (t : FileTree) (names : List String) (e : Entry) : FileTree :=
  { t with root := t.root.put names e }

def makeStep (state : FileTree × List String) (c : Path.Component) :
    Option (FileTree × List String) :=
  let (t, place) := state
  match c with
  | .root => some (t, [])
  | .here => if t.isFolderAt place then some state else none
  | .up => if t.isFolderAt place then some (t, place.dropLast) else none
  | .name n =>
    let next := place ++ [n]
    match t.root.find? next with
    | some (.folder _) => some (t, next)
    | some (.file _) => none
    | none =>
      if t.isFolderAt place && admits n then some (t.put next (.folder []), next) else none

def attempt (state : FileTree × List String) : List Path.Component → FileTree × List String
  | [] => state
  | c :: components =>
    match makeStep state c with
    | some next => attempt next components
    | none => state

def makeFolders (t : FileTree) (components : List Path.Component) : Option FileTree :=
  (components.foldlM makeStep (t, t.working)).map (·.1)

def writeFile (t : FileTree) (path : String) (bytes : List UInt8) : Option FileTree :=
  (t.locate path).bind fun names =>
    if t.isFolderAt names then none else some (t.put names (.file bytes))

def write (t : FileTree) (path : String) (bytes : List UInt8) : Option FileTree :=
  (t.makeFolders (Path.components path).dropLast).bind (writeFile · path bytes)

/-- What is left where a file could not be written: the folders above it that could be made. -/
def unwritten (t : FileTree) (path : String) : FileTree :=
  (attempt (t, t.working) (Path.components path).dropLast).1

end FileTree

end Glean
