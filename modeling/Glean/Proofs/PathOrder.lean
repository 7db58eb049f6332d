import Glean.Proofs.FileTree
import Mathlib.Data.List.Lex

set_option autoImplicit false

/-!
# The order of paths

Paths are compared component by component, so a folder's files stand together whatever characters
their names have. Below a folder the order is that of the names on the way down.
-/
namespace Glean

/-- A name that an entry of a folder can have. -/
structure IsName (name : String) : Prop where
  solid : '/' ∉ name.toList
  notHere : name.toList ≠ ['.']
  notUp : name.toList ≠ ['.', '.']
  admitted : FileTree.admits name = true

instance (name : String) : Decidable (IsName name) :=
  decidable_of_iff ('/' ∉ name.toList ∧ name.toList ≠ ['.'] ∧ name.toList ≠ ['.', '.'] ∧
    FileTree.admits name = true)
    ⟨fun ⟨h, hh, hu, ha⟩ => ⟨h, hh, hu, ha⟩, fun ⟨h, hh, hu, ha⟩ => ⟨h, hh, hu, ha⟩⟩

namespace IsName

variable {name : String} (h : IsName name)

include h

theorem ne_nil : name.toList ≠ [] := by
  intro hnil
  have hempty : name = "" := String.toList_eq_nil_iff.mp hnil
  have hadmits := h.admitted
  rw [hempty] at hadmits
  exact absurd hadmits (by decide)

theorem component?_eq : Path.component? name.toList = some (.name name) := by
  have hname : String.ofList name.toList = name := String.ofList_toList
  unfold Path.component?
  split
  · rename_i hnil
    exact absurd hnil h.ne_nil
  · rename_i hhere
    exact absurd hhere h.notHere
  · rename_i hup
    exact absurd hup h.notUp
  · rw [hname]

end IsName

namespace Path

theorem component?_eq_name (piece : List Char) (n : String)
    (h : component? piece = some (.name n)) :
    n = String.ofList piece ∧ piece ≠ ['.'] ∧ piece ≠ ['.', '.'] := by
  unfold component? at h
  split at h
  · contradiction
  · contradiction
  · cases h
  · rename_i hhere hup
    cases h
    exact ⟨rfl, hhere, hup⟩

theorem pieces_append_slash (p q : List Char) : pieces (p ++ '/' :: q) = pieces p ++ pieces q := by
  induction p with
  | nil => rfl
  | cons c p ih =>
    rw [List.cons_append, pieces, pieces, ih]
    by_cases hc : c = '/'
    · rw [if_pos hc, if_pos hc, List.cons_append]
    · rw [if_neg hc, if_neg hc]
      cases hp : pieces p with
      | nil => exact absurd hp (pieces_ne_nil p)
      | cons piece others => rfl

theorem pieces_of_not_mem (q : List Char) (h : '/' ∉ q) : pieces q = [q] := by
  induction q with
  | nil => rfl
  | cons c q ih =>
    rw [List.mem_cons, not_or] at h
    rw [pieces, if_neg fun hc => h.1 hc.symm, ih h.2]

theorem endsWith_slash_iff (path : String) :
    path.endsWith "/" = true ↔ ∃ front, path.toList = front ++ ['/'] := by
  unfold String.endsWith
  rw [String.Slice.endsWith_string_iff]
  constructor
  · rintro ⟨front, hfront⟩
    refine ⟨front, ?_⟩
    rw [String.copy_toSlice] at hfront
    exact hfront.symm
  · rintro ⟨front, hfront⟩
    refine ⟨front, ?_⟩
    rw [String.copy_toSlice, hfront]
    rfl

/-- The pieces of a path joined from a folder and a name. A slash at the end leaves an empty piece,
and the name takes its place. -/
theorem pieces_join (folder name : String) (hf : folder ≠ "") (hn : '/' ∉ name.toList) :
    ∃ front, (pieces folder.toList = front ∨ pieces folder.toList = front ++ [[]]) ∧ front ≠ [] ∧
      pieces (join folder name).toList = front ++ [name.toList] := by
  have hname := pieces_of_not_mem name.toList hn
  have hempty : ¬ folder.isEmpty = true := fun h => hf (String.isEmpty_iff.mp h)
  unfold join
  rw [if_neg hempty]
  by_cases hslash : folder.endsWith "/" = true
  · obtain ⟨front, hfront⟩ := (endsWith_slash_iff folder).mp hslash
    refine ⟨pieces front, .inr ?_, pieces_ne_nil front, ?_⟩
    · rw [hfront, pieces_append_slash]
      rfl
    · rw [if_pos hslash, String.toList_append, hfront, List.append_assoc, List.singleton_append,
        pieces_append_slash, hname]
  · refine ⟨pieces folder.toList, .inl rfl, pieces_ne_nil _, ?_⟩
    rw [if_neg hslash, String.toList_append, String.toList_append, List.append_assoc]
    change pieces (folder.toList ++ '/' :: name.toList) = _
    rw [pieces_append_slash, hname]

/-- The components that some pieces are. -/
def componentsOf : List (List Char) → List Component
  | [] => []
  | first :: others =>
    let tail := others.filterMap component?
    match first with
    | [] => if others.isEmpty then tail else .root :: tail
    | ['.'] => .here :: tail
    | first => (component? first).toList ++ tail

theorem components_eq (path : String) : components path = componentsOf (pieces path.toList) := rfl

theorem componentsOf_singleton (piece : List Char) (c : Component)
    (h : component? piece = some c) : componentsOf [piece] = [c] := by
  unfold componentsOf
  dsimp only
  split
  · contradiction
  · contradiction
  · rw [h]
    rfl

theorem componentsOf_append_empty (front : List (List Char)) (hne : front ≠ [])
    (hroot : front ≠ [[]]) : componentsOf (front ++ [[]]) = componentsOf front := by
  cases front with
  | nil => contradiction
  | cons first others =>
    have htail : (others ++ [[]]).filterMap component? = others.filterMap component? := by
      rw [List.filterMap_append]
      exact List.append_nil _
    unfold componentsOf
    dsimp only [List.cons_append]
    rw [htail]
    split
    · cases others with
      | nil => contradiction
      | cons piece others => rfl
    · rfl
    · rfl

theorem componentsOf_concat (front : List (List Char)) (piece : List Char) (hne : front ≠ []) :
    componentsOf (front ++ [piece]) =
      componentsOf (front ++ [[]]) ++ (component? piece).toList := by
  cases front with
  | nil => contradiction
  | cons first others =>
    have htail : (others ++ [piece]).filterMap component? =
        (others ++ [[]]).filterMap component? ++ (component? piece).toList := by
      rw [List.filterMap_append, List.filterMap_append, List.append_assoc]
      cases hpiece : component? piece with
      | none => rw [List.filterMap_cons_none hpiece]; rfl
      | some c => rw [List.filterMap_cons_some hpiece]; rfl
    have hmore (piece : List Char) : (others ++ [piece]).isEmpty = false := by simp
    unfold componentsOf
    dsimp only [List.cons_append]
    rw [htail, hmore, hmore]
    split
    · rfl
    · rfl
    · rw [List.append_assoc]

theorem eq_empty_of_pieces (path : String) (h : pieces path.toList = [[]]) : path = "" := by
  cases hpath : path.toList with
  | nil => exact String.toList_eq_nil_iff.mp hpath
  | cons c rest =>
    rw [hpath, pieces] at h
    split at h
    · exact absurd (List.cons.inj h).2 (pieces_ne_nil rest)
    · split at h
      · exact absurd (List.cons.inj h).1 (List.cons_ne_nil _ _)
      · exact absurd (List.cons.inj h).1 (List.cons_ne_nil _ _)

/-- An entry's path has the components of its folder's and the name. -/
theorem components_join (folder name : String) (hn : IsName name) :
    components (join folder name) = components folder ++ [.name name] := by
  by_cases hf : folder = ""
  · subst hf
    have hjoin : join "" name = name := rfl
    have hempty : components "" = [] := by decide
    rw [hjoin, hempty, components_eq, pieces_of_not_mem _ hn.solid]
    exact componentsOf_singleton _ (.name name) hn.component?_eq
  · obtain ⟨front, hfolder, hne, hjoin⟩ := pieces_join folder name hf hn.solid
    rw [components_eq, components_eq, hjoin, componentsOf_concat front _ hne,
      hn.component?_eq, Option.toList_some]
    rcases hfolder with hfolder | hfolder
    · rw [componentsOf_append_empty front hne fun h =>
          hf (eq_empty_of_pieces folder (hfolder.trans h)),
        hfolder]
    · rw [hfolder]

/-- The path that leads on along some names. -/
def joinAll (folder : String) (names : List String) : String := names.foldl join folder

theorem components_joinAll (folder : String) (names : List String) (h : ∀ n ∈ names, IsName n) :
    components (joinAll folder names) = components folder ++ names.map .name := by
  induction names generalizing folder with
  | nil => exact (List.append_nil _).symm
  | cons name names ih =>
    have hname := components_join folder name (h name List.mem_cons_self)
    rw [joinAll, List.foldl_cons, ← joinAll,
      ih _ fun n hn => h n (List.mem_cons_of_mem name hn), hname, List.append_assoc]
    rfl

/-- The names that lead on are seen from the path. -/
theorem joinAll_inj (folder : String) (names others : List String) (hn : ∀ n ∈ names, IsName n)
    (ho : ∀ n ∈ others, IsName n) (h : joinAll folder names = joinAll folder others) :
    names = others := by
  have hcomponents := congrArg components h
  rw [components_joinAll folder names hn, components_joinAll folder others ho] at hcomponents
  exact List.map_injective_iff.mpr (fun m n => Component.name.inj)
    (List.append_cancel_left hcomponents)

def Component.rank : Component → Nat
  | .root => 0
  | .here => 1
  | .up => 2
  | .name _ => 3

/-- The order of components: names are behind everything else and compared as texts. -/
def Component.Precedes (a b : Component) : Prop :=
  match a, b with
  | .name m, .name n => m < n
  | a, b => a.rank < b.rank

/-- The order of paths, component by component. -/
def Precedes (p q : String) : Prop := List.Lex Component.Precedes (components p) (components q)

theorem Component.not_precedes_self (a : Component) : ¬ a.Precedes a := by
  cases a with
  | name n => exact String.lt_irrefl n
  | root => exact Nat.lt_irrefl _
  | here => exact Nat.lt_irrefl _
  | up => exact Nat.lt_irrefl _

theorem not_precedes_self (p : String) : ¬ Precedes p p :=
  List.lex_irrefl Component.not_precedes_self _

/-- Paths below a folder whose names part have the order of the names at which they do. -/
theorem precedes_of_lt (folder m n : String) (hm : IsName m) (hn : IsName n) (h : m < n)
    (first second : List String) (hfirst : ∀ x ∈ first, IsName x)
    (hsecond : ∀ x ∈ second, IsName x) :
    Precedes (joinAll (join folder m) first) (joinAll (join folder n) second) := by
  rw [Precedes, components_joinAll _ first hfirst, components_joinAll _ second hsecond,
    components_join folder m hm, components_join folder n hn, List.append_assoc,
    List.append_assoc]
  apply List.Lex.append_left
  exact .rel h

end Path

end Glean
