import Glean.FileTree

set_option autoImplicit false

/-!
# Reading what was written

A file is put into a folder, so nothing that was a folder ceases to be one, and the path along which
it was written leads to it.
-/
namespace Glean

namespace Entry

theorem lookup_set (name : String) (new : Entry) (entries : List (String × Entry)) (n : String) :
    (set name new entries).lookup n = if n = name then some new else entries.lookup n := by
  induction entries with
  | nil =>
    by_cases h : n = name
    · rw [set, h, List.lookup_cons_self, if_pos rfl]
    · rw [set, if_neg h, List.lookup_cons, beq_eq_false_iff_ne.mpr h]
  | cons entry entries ih =>
    obtain ⟨m, e⟩ := entry
    rw [set]
    by_cases hm : m = name
    · subst hm
      rw [if_pos rfl, List.lookup_cons, List.lookup_cons]
      by_cases h : n = m
      · rw [if_pos h, h, beq_self_eq_true]
      · rw [if_neg h, beq_eq_false_iff_ne.mpr h]
    · rw [if_neg hm, List.lookup_cons, List.lookup_cons, ih]
      by_cases h : n = m
      · subst h
        rw [if_neg hm, beq_self_eq_true, if_neg hm]
      · rw [beq_eq_false_iff_ne.mpr h]

theorem find?_nil (e : Entry) : e.find? [] = some e := rfl

theorem find?_cons (e : Entry) (name : String) (names : List String) :
    e.find? (name :: names) = (e.child? name).bind (·.find? names) := rfl

theorem find?_append (e : Entry) (first second : List String) :
    e.find? (first ++ second) = (e.find? first).bind (·.find? second) := by
  rw [find?, List.foldlM_append]
  rfl

theorem exists_folder_of_find?_cons (e below : Entry) (name : String) (names : List String)
    (h : e.find? (name :: names) = some below) :
    ∃ entries next, e = folder entries ∧ entries.lookup name = some next ∧
      next.find? names = some below := by
  cases e with
  | file bytes => contradiction
  | folder entries =>
    rw [find?_cons, Option.bind_eq_some_iff] at h
    obtain ⟨next, hnext, hbelow⟩ := h
    exact ⟨entries, next, rfl, hnext, hbelow⟩

theorem find?_put (place : List String) (name : String) (e new : Entry)
    (entries : List (String × Entry)) (h : e.find? place = some (folder entries)) :
    (put (place ++ [name]) e new).find? (place ++ [name]) = some new := by
  induction place generalizing e with
  | nil =>
    rw [find?_nil, Option.some.injEq] at h
    rw [h, List.nil_append, put, put, find?_cons, child?, lookup_set, if_pos rfl]
    rfl
  | cons n place ih =>
    obtain ⟨others, next, rfl, hnext, hbelow⟩ := exists_folder_of_find?_cons e _ n place h
    rw [List.cons_append, put, find?_cons, child?, lookup_set, if_pos rfl, hnext]
    exact ih next hbelow

/-- Where there was a folder there still is one, unless something is put in its place. -/
theorem exists_folder_put (names place : List String) (e new : Entry)
    (entries : List (String × Entry)) (hn : ∀ others, e.find? names ≠ some (folder others))
    (h : e.find? place = some (folder entries)) :
    ∃ others, (put names e new).find? place = some (folder others) := by
  induction names generalizing e place with
  | nil =>
    -- The entry itself is replaced, but then it is no folder and nothing is below it.
    exfalso
    cases place with
    | nil => exact hn entries h
    | cons m place =>
      obtain ⟨others, next, rfl, -, -⟩ := exists_folder_of_find?_cons e _ m place h
      exact hn others rfl
  | cons n names ih =>
    cases place with
    | nil =>
      rw [find?_nil, Option.some.injEq] at h
      rw [h, put]
      exact ⟨_, rfl⟩
    | cons m place =>
      obtain ⟨others, next, rfl, hnext, hbelow⟩ := exists_folder_of_find?_cons e _ m place h
      rw [put, find?_cons, child?, lookup_set]
      -- The two ways part here, or they go on together.
      by_cases hm : m = n
      · subst hm
        have hrest : ∀ others, next.find? names ≠ some (folder others) := by
          intro more hmore
          apply hn more
          rw [find?_cons, child?, hnext]
          exact hmore
        rw [if_pos rfl, hnext]
        exact ih place next hrest hbelow
      · rw [if_neg hm, hnext]
        exact ⟨entries, hbelow⟩

end Entry

namespace FileTree

theorem isFolderAt_iff (t : FileTree) (names : List String) :
    t.isFolderAt names = true ↔ ∃ entries, t.root.find? names = some (.folder entries) := by
  unfold isFolderAt
  cases h : t.root.find? names with
  | none => simp
  | some e =>
    cases e with
    | file bytes => simp [Entry.isFolder]
    | folder entries => simp [Entry.isFolder]

theorem isFolderAt_dropLast (t : FileTree) (names : List String) (h : t.isFolderAt names = true) :
    t.isFolderAt names.dropLast = true := by
  by_cases hn : names = []
  · rw [hn] at h ⊢
    exact h
  · rw [isFolderAt_iff] at h ⊢
    obtain ⟨entries, hentries⟩ := h
    rw [← List.dropLast_concat_getLast hn, Entry.find?_append, Option.bind_eq_some_iff] at hentries
    obtain ⟨e, he, hlast⟩ := hentries
    obtain ⟨others, -, rfl, -, -⟩ := Entry.exists_folder_of_find?_cons e _ _ _ hlast
    exact ⟨others, he⟩

/-- Where one piece of a path leads, if that is no folder: to a name in a folder. -/
theorem exists_place_of_follow (t : FileTree) (place names : List String) (piece : List Char)
    (h : t.follow place piece = some names) (hn : t.isFolderAt names = false) :
    t.isFolderAt place = true ∧ ∃ name, names = place ++ [name] := by
  have hne : ∀ other, t.isFolderAt other = true → other ≠ names := by
    rintro other hother rfl
    rw [hn] at hother
    contradiction
  unfold follow at h
  split at h
  · rename_i hplace
    have habove := t.isFolderAt_dropLast place hplace
    refine ⟨hplace, ?_⟩
    split at h
    · exact absurd (Option.some.inj h) (hne place hplace)
    · exact absurd (Option.some.inj h) (hne place hplace)
    · exact absurd (Option.some.inj h) (hne place.dropLast habove)
    · split at h
      · exact ⟨_, (Option.some.inj h).symm⟩
      · contradiction
  · contradiction

theorem locate_eq_some_iff (t : FileTree) (path : String) (names : List String) :
    t.locate path = some names ↔ ∃ place pieces, t.route? path = some (place, pieces) ∧
      pieces.foldlM (follow t) place = some names := by
  rw [locate, Option.bind_eq_some_iff, Prod.exists]

section

variable (t : FileTree) (names : List String) (e : Entry) (hn : t.isFolderAt names = false)

include hn

theorem isFolderAt_put (place : List String) (h : t.isFolderAt place = true) :
    (t.put names e).isFolderAt place = true := by
  rw [isFolderAt_iff] at h ⊢
  obtain ⟨entries, hentries⟩ := h
  refine Entry.exists_folder_put names place t.root e entries ?_ hentries
  intro others hothers
  have hfolder : t.isFolderAt names = true := (t.isFolderAt_iff names).mpr ⟨others, hothers⟩
  rw [hn] at hfolder
  contradiction

theorem follow_put (place next : List String) (piece : List Char)
    (h : t.follow place piece = some next) : (t.put names e).follow place piece = some next := by
  unfold follow at h ⊢
  by_cases hplace : t.isFolderAt place = true
  · rw [if_pos hplace] at h
    rw [if_pos (t.isFolderAt_put names e hn place hplace)]
    exact h
  · rw [if_neg hplace] at h
    contradiction

theorem foldlM_follow_put (place stop : List String) (pieces : List (List Char))
    (h : pieces.foldlM (follow t) place = some stop) :
    pieces.foldlM (follow (t.put names e)) place = some stop := by
  induction pieces generalizing place with
  | nil => exact h
  | cons piece pieces ih =>
    rw [List.foldlM_cons] at h ⊢
    obtain ⟨next, hnext, hrest⟩ := Option.bind_eq_some_iff.mp h
    have hstep := t.follow_put names e hn place next piece hnext
    exact Option.bind_eq_some_iff.mpr ⟨next, hstep, ih next hrest⟩

theorem locate_put (path : String) (stop : List String) (h : t.locate path = some stop) :
    (t.put names e).locate path = some stop := by
  obtain ⟨place, pieces, hroute, hfold⟩ := (t.locate_eq_some_iff path stop).mp h
  exact (locate_eq_some_iff _ path stop).mpr
    ⟨place, pieces, hroute, t.foldlM_follow_put names e hn place stop pieces hfold⟩

end

end FileTree

theorem Path.pieces_ne_nil (path : List Char) : Path.pieces path ≠ [] := by
  cases path with
  | nil => exact List.cons_ne_nil _ _
  | cons c rest =>
    rw [Path.pieces]
    split
    · exact List.cons_ne_nil _ _
    · split
      · exact List.cons_ne_nil _ _
      · exact List.cons_ne_nil _ _

namespace FileTree

/-- A path begins at the root or in the working folder, and it leads on. -/
theorem route?_eq_some_iff (t : FileTree) (path : String) (place : List String)
    (pieces : List (List Char)) : t.route? path = some (place, pieces) ↔ pieces ≠ [] ∧
      ((place = [] ∧ Path.pieces path.toList = [] :: pieces) ∨
        (place = t.working ∧ Path.pieces path.toList = pieces ∧ pieces.head? ≠ some [])) := by
  unfold route?
  cases hp : Path.pieces path.toList with
  | nil => exact absurd hp (Path.pieces_ne_nil _)
  | cons first others =>
    cases first with
    | nil =>
      cases others with
      | nil => grind
      | cons piece others => grind
    | cons c first => grind

theorem exists_place_of_locate (t : FileTree) (path : String) (names : List String)
    (h : t.locate path = some names) (hn : t.isFolderAt names = false) :
    ∃ place name, t.isFolderAt place = true ∧ names = place ++ [name] := by
  obtain ⟨start, pieces, hroute, hfold⟩ := (t.locate_eq_some_iff path names).mp h
  have hne := ((t.route?_eq_some_iff path start pieces).mp hroute).1
  rw [← List.dropLast_concat_getLast hne, List.foldlM_append] at hfold
  obtain ⟨place, -, hlast⟩ := Option.bind_eq_some_iff.mp hfold
  rw [List.foldlM_cons] at hlast
  obtain ⟨stop, hstop, hnil⟩ := Option.bind_eq_some_iff.mp hlast
  have heq : stop = names := Option.some.inj hnil
  rw [heq] at hstop
  obtain ⟨hplace, name, hname⟩ := t.exists_place_of_follow place names _ hstop hn
  exact ⟨place, name, hplace, hname⟩

theorem read?_of_writeFile (t u : FileTree) (path : String) (bytes : List UInt8)
    (h : t.writeFile path bytes = some u) : u.read? path = some bytes := by
  obtain ⟨names, hnames, hput⟩ := Option.bind_eq_some_iff.mp h
  split at hput
  · contradiction
  · rename_i hfolder
    have hn : t.isFolderAt names = false := Bool.eq_false_iff.mpr hfolder
    have hu : t.put names (.file bytes) = u := Option.some.inj hput
    obtain ⟨place, name, hplace, rfl⟩ := t.exists_place_of_locate path names hnames hn
    obtain ⟨entries, hentries⟩ := (t.isFolderAt_iff place).mp hplace
    have hfound : u.root.find? (place ++ [name]) = some (.file bytes) := by
      rw [← hu]
      exact Entry.find?_put place name t.root (.file bytes) entries hentries
    have hlocate : u.locate path = some (place ++ [name]) := by
      rw [← hu]
      exact t.locate_put _ (.file bytes) hn path _ hnames
    rw [read?, entry?, hlocate, Option.bind_some, hfound]

theorem read?_of_write (t u : FileTree) (path : String) (bytes : List UInt8)
    (h : t.write path bytes = some u) : u.read? path = some bytes := by
  obtain ⟨made, -, hwrite⟩ := Option.bind_eq_some_iff.mp h
  exact made.read?_of_writeFile u path bytes hwrite

end FileTree

end Glean
