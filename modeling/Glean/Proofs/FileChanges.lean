import Glean.Proofs.FileTree

set_option autoImplicit false

/-!
# What writing leaves as it was

A file that is written, and the folders that are made above it, change no other file. Where only the
file is new, every other path leads where it led before.
-/
namespace Glean

namespace Entry

def bytes? : Entry → Option (List UInt8)
  | file bytes => some bytes
  | folder _ => none

/-- The bytes of the file that some names lead to. -/
def fileAt? (e : Entry) (names : List String) : Option (List UInt8) := (e.find? names).bind bytes?

theorem find?_cons_folder (entries : List (String × Entry)) (name : String)
    (names : List String) :
    (folder entries).find? (name :: names) = (entries.lookup name).bind (·.find? names) := by
  rw [find?_cons, child?]

theorem fileAt?_cons_folder (entries : List (String × Entry)) (name : String)
    (names : List String) :
    (folder entries).fileAt? (name :: names) = (entries.lookup name).bind (·.fileAt? names) := by
  rw [fileAt?, find?_cons_folder]
  cases entries.lookup name with
  | none => rfl
  | some next => rfl

/-- There is no file strictly inside. -/
def IsBare (e : Entry) : Prop := ∀ name names, e.fileAt? (name :: names) = none

theorem isBare_file (bytes : List UInt8) : (file bytes).IsBare := fun _ _ => rfl

theorem isBare_folder : (folder []).IsBare := fun _ _ => rfl

theorem fileAt?_empty (names : List String) : (folder []).fileAt? names = none := by
  cases names with
  | nil => rfl
  | cons name names => rfl

theorem fileAt?_put (names place : List String) (e new : Entry) (hn : place ≠ names)
    (hnew : new.IsBare) (hold : ∀ old, e.find? names = some old → old.IsBare) :
    (put names e new).fileAt? place = e.fileAt? place := by
  induction names generalizing e place with
  | nil =>
    -- One bare entry in the place of another one: strictly inside there is no file in either.
    cases place with
    | nil => contradiction
    | cons m place => rw [put, hnew, hold e rfl]
  | cons n names ih =>
    cases e with
    | file bytes => rfl
    | folder entries =>
      rw [put]
      cases place with
      | nil => rfl
      | cons m place =>
        rw [fileAt?_cons_folder, fileAt?_cons_folder, lookup_set]
        by_cases hm : m = n
        · subst hm
          have hrest : place ≠ names := fun h => hn (h ▸ rfl)
          rw [if_pos rfl, Option.bind_some]
          cases hnext : entries.lookup m with
          | none =>
            rw [Option.getD_none, Option.bind_none, ih place (folder []) hrest, fileAt?_empty]
            intro old hfound
            cases names with
            | nil => exact Option.some.inj hfound ▸ isBare_folder
            | cons name names => contradiction
          | some next =>
            rw [Option.getD_some, Option.bind_some]
            apply ih place next hrest
            intro old hfound
            apply hold old
            rw [find?_cons_folder, hnext]
            exact hfound
        · rw [if_neg hm]

/-- An empty folder in the place of nothing is no file. -/
theorem fileAt?_put_folder (names : List String) (e : Entry) (h : e.find? names = none) :
    (put names e (folder [])).fileAt? names = none := by
  induction names generalizing e with
  | nil => contradiction
  | cons n names ih =>
    cases e with
    | file bytes => rfl
    | folder entries =>
      rw [put, fileAt?_cons_folder, lookup_set, if_pos rfl, Option.bind_some]
      rw [find?_cons_folder] at h
      cases names with
      | nil => rfl
      | cons m names =>
        apply ih
        cases hnext : entries.lookup n with
        | none => rfl
        | some next =>
          rw [hnext] at h
          exact h

/-- Where there is a folder once a file was put into a folder, there was one before. -/
theorem exists_folder_of_put (place names : List String) (name : String) (bytes : List UInt8)
    (e : Entry) (entries others : List (String × Entry))
    (h : e.find? place = some (folder entries))
    (hput : (put (place ++ [name]) e (file bytes)).find? names = some (folder others)) :
    ∃ before, e.find? names = some (folder before) := by
  induction place generalizing e names with
  | nil =>
    rw [find?_nil, Option.some.injEq] at h
    subst h
    cases names with
    | nil => exact ⟨entries, rfl⟩
    | cons m names =>
      rw [List.nil_append, put, put, find?_cons_folder, lookup_set] at hput
      by_cases hm : m = name
      · rw [if_pos hm, Option.bind_some] at hput
        cases names with
        | nil => cases hput
        | cons m names => contradiction
      · rw [if_neg hm] at hput
        exact ⟨others, by rw [find?_cons_folder, hput]⟩
  | cons n place ih =>
    obtain ⟨siblings, next, rfl, hnext, hbelow⟩ := exists_folder_of_find?_cons e _ n place h
    cases names with
    | nil => exact ⟨siblings, rfl⟩
    | cons m names =>
      rw [List.cons_append, put, find?_cons_folder, lookup_set, hnext, Option.getD_some] at hput
      rw [find?_cons_folder]
      by_cases hm : m = n
      · rw [if_pos hm, Option.bind_some] at hput
        rw [hm, hnext]
        exact ih names next hbelow hput
      · rw [if_neg hm] at hput
        exact ⟨others, hput⟩

end Entry

namespace FileTree

theorem read?_eq (t : FileTree) (path : String) :
    t.read? path = (t.locate path).bind t.root.fileAt? := by
  rw [read?, entry?]
  cases t.locate path with
  | none => rfl
  | some names =>
    rw [Option.bind_some, Option.bind_some, Entry.fileAt?]
    cases t.root.find? names with
    | none => rfl
    | some e => cases e <;> rfl

theorem isBare_of_not_isFolderAt (t : FileTree) (names : List String)
    (h : t.isFolderAt names = false) (e : Entry) (he : t.root.find? names = some e) : e.IsBare := by
  cases e with
  | file bytes => exact Entry.isBare_file bytes
  | folder entries =>
    have hfolder := (t.isFolderAt_iff names).mpr ⟨entries, he⟩
    rw [h] at hfolder
    contradiction

theorem fileAt?_put_file (t : FileTree) (names place : List String) (bytes : List UInt8)
    (hn : t.isFolderAt names = false) (h : place ≠ names) :
    (t.put names (.file bytes)).root.fileAt? place = t.root.fileAt? place :=
  Entry.fileAt?_put names place t.root _ h (Entry.isBare_file bytes)
    (t.isBare_of_not_isFolderAt names hn)

/-- What is known of a file that was written into a folder. -/
theorem writeFile_eq_some (t u : FileTree) (path : String) (bytes : List UInt8)
    (h : t.writeFile path bytes = some u) :
    ∃ place name, t.locate path = some (place ++ [name]) ∧ t.isFolderAt place = true ∧
      t.isFolderAt (place ++ [name]) = false ∧ u = t.put (place ++ [name]) (.file bytes) := by
  obtain ⟨names, hnames, hput⟩ := Option.bind_eq_some_iff.mp h
  split at hput
  · contradiction
  · rename_i hfolder
    have hn : t.isFolderAt names = false := Bool.eq_false_iff.mpr hfolder
    obtain ⟨place, name, hplace, rfl⟩ := t.exists_place_of_locate path names hnames hn
    exact ⟨place, name, hnames, hplace, hn, (Option.some.inj hput).symm⟩

section

variable {t u : FileTree} {path : String} {bytes : List UInt8}
  (h : t.writeFile path bytes = some u)

include h

theorem isFolderAt_writeFile (names : List String) : u.isFolderAt names = t.isFolderAt names := by
  obtain ⟨place, name, -, hplace, hn, rfl⟩ := t.writeFile_eq_some u path bytes h
  rw [Bool.eq_iff_iff]
  constructor
  · intro hfolder
    obtain ⟨entries, hentries⟩ := (t.isFolderAt_iff place).mp hplace
    obtain ⟨others, hothers⟩ := (isFolderAt_iff _ names).mp hfolder
    exact (t.isFolderAt_iff names).mpr
      (Entry.exists_folder_of_put place names name bytes t.root entries others hentries hothers)
  · exact t.isFolderAt_put (place ++ [name]) (.file bytes) hn names

theorem working_writeFile : u.working = t.working := by
  obtain ⟨place, name, -, -, -, rfl⟩ := t.writeFile_eq_some u path bytes h
  rfl

theorem locate_writeFile (other : String) : u.locate other = t.locate other := by
  have hfollow : u.follow = t.follow := by
    funext place piece
    simp only [follow, isFolderAt_writeFile h]
  simp only [locate, route?, working_writeFile h, hfollow]

theorem fileAt?_writeFile (names : List String) (hn : t.locate path ≠ some names) :
    u.root.fileAt? names = t.root.fileAt? names := by
  obtain ⟨place, name, hnames, -, hfolder, rfl⟩ := t.writeFile_eq_some u path bytes h
  rw [hnames] at hn
  exact t.fileAt?_put_file _ names bytes hfolder fun he => hn (he ▸ rfl)

/-- A path that leads elsewhere leads to what it led to before. -/
theorem read?_writeFile (other : String) (hn : t.locate other ≠ t.locate path) :
    u.read? other = t.read? other := by
  rw [read?_eq, read?_eq, locate_writeFile h]
  cases hother : t.locate other with
  | none => rfl
  | some names => exact fileAt?_writeFile h names fun he => hn (hother.trans he.symm)

end

/-- A folder is only made where there was nothing, in a folder. -/
theorem makeStep_cases (t : FileTree) (place : List String) (next : FileTree × List String)
    (c : Path.Component) (h : makeStep (t, place) c = some next) :
    next.1 = t ∨ ∃ n, c = .name n ∧ t.root.find? (place ++ [n]) = none ∧
      t.isFolderAt place = true ∧ admits n = true ∧
      next = (t.put (place ++ [n]) (.folder []), place ++ [n]) := by
  unfold makeStep at h
  cases c with
  | root => exact .inl (Option.some.inj h ▸ rfl)
  | here =>
    dsimp only at h
    split at h
    · exact .inl (Option.some.inj h ▸ rfl)
    · contradiction
  | up =>
    dsimp only at h
    split at h
    · exact .inl (Option.some.inj h ▸ rfl)
    · contradiction
  | name n =>
    dsimp only at h
    split at h
    · exact .inl (Option.some.inj h ▸ rfl)
    · contradiction
    · rename_i hnone
      split at h
      · rename_i hmade
        rw [Bool.and_eq_true] at hmade
        exact .inr ⟨n, rfl, hnone, hmade.1, hmade.2, (Option.some.inj h).symm⟩
      · contradiction

/-- The same files and the same working folder. There may be other folders. -/
structure SameFiles (t u : FileTree) : Prop where
  working : u.working = t.working
  fileAt?_eq : ∀ names, u.root.fileAt? names = t.root.fileAt? names

namespace SameFiles

theorem refl (t : FileTree) : SameFiles t t := ⟨rfl, fun _ => rfl⟩

theorem trans {t u v : FileTree} (h : SameFiles t u) (k : SameFiles u v) : SameFiles t v :=
  ⟨k.working.trans h.working, fun names => (k.fileAt?_eq names).trans (h.fileAt?_eq names)⟩

theorem put_folder (t : FileTree) (names : List String) (h : t.root.find? names = none) :
    SameFiles t (t.put names (.folder [])) := by
  refine ⟨rfl, ?_⟩
  intro others
  by_cases hn : others = names
  · -- In the place of the new folder there was nothing.
    subst hn
    have hold : t.root.fileAt? others = none := by
      rw [Entry.fileAt?, h, Option.bind_none]
    exact (Entry.fileAt?_put_folder _ t.root h).trans hold.symm
  · refine Entry.fileAt?_put _ others t.root _ hn Entry.isBare_folder ?_
    intro old hold
    rw [h] at hold
    contradiction

theorem makeStep (state next : FileTree × List String) (c : Path.Component)
    (h : FileTree.makeStep state c = some next) : SameFiles state.1 next.1 := by
  obtain ⟨t, place⟩ := state
  rcases makeStep_cases t place next c h with hsame | ⟨n, -, hnone, -, -, rfl⟩
  · exact hsame ▸ .refl t
  · exact put_folder t _ hnone

theorem attempt (cs : List Path.Component) (state : FileTree × List String) :
    SameFiles state.1 (FileTree.attempt state cs).1 := by
  induction cs generalizing state with
  | nil => exact .refl _
  | cons c cs ih =>
    unfold FileTree.attempt
    split
    · rename_i next hnext
      exact (makeStep state next c hnext).trans (ih next)
    · exact .refl _

theorem unwritten (t : FileTree) (path : String) : SameFiles t (t.unwritten path) :=
  attempt _ (t, t.working)

end SameFiles

/-- Folders that can all be made are made as far as can be. -/
theorem attempt_eq (cs : List Path.Component) (state stop : FileTree × List String)
    (h : cs.foldlM makeStep state = some stop) : attempt state cs = stop := by
  induction cs generalizing state with
  | nil => exact Option.some.inj h
  | cons c cs ih =>
    rw [List.foldlM_cons] at h
    obtain ⟨next, hnext, hrest⟩ := Option.bind_eq_some_iff.mp h
    unfold attempt
    rw [hnext]
    exact ih next hrest

theorem writeFile_of_write (t u : FileTree) (path : String) (bytes : List UInt8)
    (h : t.write path bytes = some u) : (t.unwritten path).writeFile path bytes = some u := by
  obtain ⟨made, hmade, hwrite⟩ := Option.bind_eq_some_iff.mp h
  obtain ⟨stop, hsteps, rfl⟩ := Option.map_eq_some_iff.mp hmade
  rw [unwritten, attempt_eq _ _ stop hsteps]
  exact hwrite

/-- A file that is written along with the folders above it is the only one that changes. -/
theorem exists_place_of_write (t u : FileTree) (path : String) (bytes : List UInt8)
    (h : t.write path bytes = some u) :
    u.working = t.working ∧ ∃ place, u.locate path = some place ∧
      u.root.fileAt? place = some bytes ∧
      ∀ names, names ≠ place → u.root.fileAt? names = t.root.fileAt? names := by
  have hread := t.read?_of_write u path bytes h
  have hwrite := t.writeFile_of_write u path bytes h
  have hmade := SameFiles.unwritten t path
  rw [read?_eq] at hread
  obtain ⟨place, hplace, hbytes⟩ := Option.bind_eq_some_iff.mp hread
  refine ⟨(working_writeFile hwrite).trans hmade.working, place, hplace, hbytes, ?_⟩
  intro names hn
  have hwritten : (t.unwritten path).locate path ≠ some names := by
    rw [← locate_writeFile hwrite, hplace]
    exact fun he => hn (Option.some.inj he).symm
  rw [fileAt?_writeFile hwrite names hwritten, hmade.fileAt?_eq]

end FileTree

end Glean
