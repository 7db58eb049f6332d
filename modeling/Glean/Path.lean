set_option autoImplicit false

/-!
# Paths

A path is a string; its meaning is in its components. Repeated slashes, a slash at the end and `.`
anywhere but at the front of a relative path mean nothing. The last component, if it is a name, is
the file's name, and what follows its last dot is the extension, unless that dot begins the name.
-/
namespace Glean.Path

inductive Component
  | root
  | here
  | up
  | name (n : String)
  deriving DecidableEq, Repr

def pieces (path : List Char) : List (List Char) :=
  match path with
  | [] => [[]]
  | c :: rest =>
    if c = '/' then [] :: pieces rest
    else
      match pieces rest with
      | [] => [[c]]
      | piece :: others => (c :: piece) :: others

def component? (piece : List Char) : Option Component :=
  match piece with
  | [] => none
  | ['.'] => none
  | ['.', '.'] => some .up
  | piece => some (.name (String.ofList piece))

def components (path : String) : List Component :=
  match pieces path.toList with
  | [] => []
  | first :: others =>
    let tail := others.filterMap component?
    match first with
    | [] => if others.isEmpty then tail else .root :: tail
    | ['.'] => .here :: tail
    | first => (component? first).toList ++ tail

def fileName? (path : String) : Option String :=
  match (components path).getLast? with
  | some (.name n) => some n
  | _ => none

/-- What follows the last dot of a name, unless nothing stands before that dot. -/
def extensionOf? (name : List Char) : Option (List Char) :=
  let after := name.reverse.takeWhile (· ≠ '.')
  let before := name.reverse.drop (after.length + 1)
  if after.length < name.length ∧ before ≠ [] then some after.reverse else none

def extension? (path : String) : Option String :=
  (fileName? path).bind fun name => (extensionOf? name.toList).map String.ofList

def join (folder name : String) : String :=
  if folder.isEmpty then name
  else if folder.endsWith "/" then folder ++ name
  else folder ++ "/" ++ name

end Glean.Path
