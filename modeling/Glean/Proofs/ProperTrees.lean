import Glean.Proofs.Obstacles
import Glean.Proofs.PathOrder

set_option autoImplicit false

/-!
# Trees of files

In a tree of files the entries of a folder have names that a path can lead along, and no two of them
the same one. A file is written where a path leads, and so a run leaves such a tree behind.
-/
namespace Glean

namespace Entry

/-- The entries of every folder have names, and no two of them the same. -/
inductive Proper : Entry → Prop
  | file (bytes : List UInt8) : Proper (file bytes)
  | folder (entries : List (String × Entry)) (distinct : (entries.map (·.1)).Nodup)
      (named : ∀ entry ∈ entries, IsName entry.1) (below : ∀ entry ∈ entries, Proper entry.2) :
      Proper (folder entries)

theorem lookup_eq_some_iff (entries : List (String × Entry)) (h : (entries.map (·.1)).Nodup)
    (name : String) (e : Entry) : entries.lookup name = some e ↔ (name, e) ∈ entries := by
  rw [List.lookup_eq_some_iff]
  constructor
  · rintro ⟨front, back, rfl, -⟩
    exact List.mem_append_right front List.mem_cons_self
  · intro hmem
    obtain ⟨front, back, rfl⟩ := List.append_of_mem hmem
    refine ⟨front, back, rfl, ?_⟩
    intro entry hentry
    rw [List.map_append, List.nodup_append] at h
    have hne := h.2.2 entry.1 (List.mem_map_of_mem hentry) name List.mem_cons_self
    exact bne_iff_ne.mpr hne.symm

namespace Proper

/-- What some names lead to in a tree is a tree itself, and the names are names. -/
theorem of_find? (e below : Entry) (names : List String) (h : e.Proper)
    (hb : e.find? names = some below) : below.Proper ∧ ∀ name ∈ names, IsName name := by
  induction names generalizing e with
  | nil =>
    rw [find?_nil, Option.some.injEq] at hb
    exact ⟨hb ▸ h, nofun⟩
  | cons name names ih =>
    obtain ⟨entries, next, rfl, hnext, hrest⟩ := exists_folder_of_find?_cons e below name names hb
    cases h with
    | folder entries distinct named proper =>
      have hmem := (lookup_eq_some_iff entries distinct name next).mp hnext
      obtain ⟨hbelow, hnames⟩ := ih next (proper _ hmem) hrest
      exact ⟨hbelow, List.forall_mem_cons.mpr ⟨named _ hmem, hnames⟩⟩

end Proper

theorem Proper.empty : Proper (.folder []) := .folder [] .nil (by simp) (by simp)

theorem mem_set (name : String) (new : Entry) (entries : List (String × Entry))
    (entry : String × Entry) (h : entry ∈ set name new entries) :
    entry = (name, new) ∨ entry ∈ entries := by
  induction entries with
  | nil => exact .inl (List.mem_singleton.mp h)
  | cons first entries ih =>
    obtain ⟨n, e⟩ := first
    rw [set] at h
    split at h
    · rename_i hn
      rcases List.mem_cons.mp h with h | h
      · exact .inl (hn ▸ h)
      · exact .inr (List.mem_cons_of_mem _ h)
    · rcases List.mem_cons.mp h with h | h
      · exact .inr (h ▸ List.mem_cons_self)
      · exact (ih h).imp_right (List.mem_cons_of_mem _)

theorem nodup_set (name : String) (new : Entry) (entries : List (String × Entry))
    (h : (entries.map (·.1)).Nodup) : ((set name new entries).map (·.1)).Nodup := by
  induction entries with
  | nil => exact List.pairwise_singleton _ _
  | cons first entries ih =>
    obtain ⟨n, e⟩ := first
    rw [List.map_cons, List.nodup_cons] at h
    rw [set]
    split
    · exact List.nodup_cons.mpr h
    · rename_i hn
      rw [List.map_cons, List.nodup_cons]
      refine ⟨?_, ih h.2⟩
      intro hmem
      obtain ⟨entry, hentry, heq⟩ := List.mem_map.mp hmem
      rcases mem_set name new entries entry hentry with rfl | hentry
      · exact hn heq.symm
      · exact h.1 (heq ▸ List.mem_map_of_mem hentry)

theorem Proper.put (names : List String) (hn : ∀ name ∈ names, IsName name) (e new : Entry)
    (he : e.Proper) (hnew : new.Proper) : (put names e new).Proper := by
  induction names generalizing e with
  | nil => exact hnew
  | cons name names ih =>
    rw [List.forall_mem_cons] at hn
    cases he with
    | file bytes => exact .file bytes
    | folder entries distinct named below =>
      have hbelow : ((entries.lookup name).getD (.folder [])).Proper := by
        cases hlookup : entries.lookup name with
        | none => exact .empty
        | some e => exact below _ ((lookup_eq_some_iff entries distinct name e).mp hlookup)
      rw [Entry.put]
      refine .folder _ (nodup_set _ _ _ distinct) ?_ ?_
      · intro entry hentry
        rcases mem_set _ _ _ _ hentry with rfl | hentry
        · exact hn.1
        · exact named entry hentry
      · intro entry hentry
        rcases mem_set _ _ _ _ hentry with rfl | hentry
        · exact ih hn.2 _ hbelow
        · exact below entry hentry

end Entry

/-! ### Names on paths -/

theorem Path.not_mem_of_mem_pieces (path piece : List Char) (h : piece ∈ pieces path) :
    '/' ∉ piece := by
  induction path generalizing piece with
  | nil =>
    rw [List.mem_singleton.mp h]
    exact List.not_mem_nil
  | cons c path ih =>
    rw [pieces] at h
    split at h
    · rcases List.mem_cons.mp h with rfl | h
      · exact List.not_mem_nil
      · exact ih piece h
    · rename_i hc
      cases hp : pieces path with
      | nil => exact absurd hp (pieces_ne_nil path)
      | cons first others =>
        rw [hp] at h ih
        rcases List.mem_cons.mp h with rfl | h
        · rw [List.mem_cons, not_or]
          exact ⟨fun heq => hc heq.symm, ih first List.mem_cons_self⟩
        · exact ih piece (List.mem_cons_of_mem first h)

/-- A piece of a path that stands for itself, unless it is too long. -/
theorem IsName.of_piece (piece : List Char) (hslash : '/' ∉ piece) (hhere : piece ≠ ['.'])
    (hup : piece ≠ ['.', '.']) (hadmits : FileTree.admits (String.ofList piece) = true) :
    IsName (String.ofList piece) := by
  refine ⟨?_, ?_, ?_, hadmits⟩
  · rw [String.toList_ofList]
    exact hslash
  · rw [String.toList_ofList]
    exact hhere
  · rw [String.toList_ofList]
    exact hup

theorem Path.exists_piece_of_name (ps : List (List Char)) (n : String)
    (h : Component.name n ∈ componentsOf ps) : ∃ piece ∈ ps, component? piece = some (.name n) := by
  cases ps with
  | nil => contradiction
  | cons first others =>
    have hothers (h : Component.name n ∈ others.filterMap component?) :
        ∃ piece ∈ first :: others, component? piece = some (.name n) := by
      obtain ⟨piece, hmem, hpiece⟩ := List.mem_filterMap.mp h
      exact ⟨piece, List.mem_cons_of_mem first hmem, hpiece⟩
    unfold componentsOf at h
    dsimp only at h
    split at h
    · split at h
      · exact hothers h
      · exact hothers ((List.mem_cons.mp h).resolve_left nofun)
    · exact hothers ((List.mem_cons.mp h).resolve_left nofun)
    · rcases List.mem_append.mp h with h | h
      · exact ⟨first, List.mem_cons_self, Option.mem_toList.mp h⟩
      · exact hothers h

/-- The names among the components of a path are names if they are not too long. -/
theorem IsName.of_mem_components (path n : String) (h : .name n ∈ Path.components path)
    (hadmits : FileTree.admits n = true) : IsName n := by
  rw [Path.components_eq] at h
  obtain ⟨piece, hmem, hcomponent⟩ := Path.exists_piece_of_name _ n h
  obtain ⟨rfl, hhere, hup⟩ := Path.component?_eq_name piece n hcomponent
  exact .of_piece piece (Path.not_mem_of_mem_pieces _ piece hmem) hhere hup hadmits

/-! ### Writing -/

namespace FileTree

theorem isName_follow (t : FileTree) (place next : List String) (piece : List Char)
    (h : t.follow place piece = some next) (hslash : '/' ∉ piece)
    (hn : ∀ name ∈ place, IsName name) : ∀ name ∈ next, IsName name := by
  unfold follow at h
  split at h
  · split at h
    · exact Option.some.inj h ▸ hn
    · exact Option.some.inj h ▸ hn
    · rw [← Option.some.inj h]
      intro name hname
      exact hn name (List.dropLast_subset _ hname)
    · rename_i hhere hup
      split at h
      · rename_i hadmits
        rw [← Option.some.inj h]
        intro name hname
        rcases List.mem_append.mp hname with hname | hname
        · exact hn name hname
        · rw [List.mem_singleton.mp hname]
          exact .of_piece piece hslash hhere hup hadmits
      · contradiction
  · contradiction

theorem isName_foldlM_follow (t : FileTree) (pieces : List (List Char)) (place stop : List String)
    (hslash : ∀ piece ∈ pieces, '/' ∉ piece) (h : pieces.foldlM (follow t) place = some stop)
    (hn : ∀ name ∈ place, IsName name) : ∀ name ∈ stop, IsName name := by
  induction pieces generalizing place with
  | nil => exact Option.some.inj h ▸ hn
  | cons piece pieces ih =>
    rw [List.forall_mem_cons] at hslash
    rw [List.foldlM_cons] at h
    obtain ⟨next, hnext, hrest⟩ := Option.bind_eq_some_iff.mp h
    exact ih next hslash.2 hrest (t.isName_follow place next piece hnext hslash.1 hn)

theorem isName_of_isFolderAt (t : FileTree) (place : List String) (ht : t.root.Proper)
    (h : t.isFolderAt place = true) : ∀ name ∈ place, IsName name := by
  obtain ⟨entries, hentries⟩ := (t.isFolderAt_iff place).mp h
  exact (Entry.Proper.of_find? t.root _ place ht hentries).2

theorem isName_locate (t : FileTree) (path : String) (names : List String) (ht : t.root.Proper)
    (h : t.locate path = some names) : ∀ name ∈ names, IsName name := by
  obtain ⟨place, pieces, hroute, hfold⟩ := (t.locate_eq_some_iff path names).mp h
  obtain ⟨hne, hstart⟩ := (t.route?_eq_some_iff path place pieces).mp hroute
  have hsolid : ∀ piece ∈ pieces, '/' ∉ piece := by
    intro piece hpiece
    apply Path.not_mem_of_mem_pieces path.toList
    rcases hstart with ⟨-, hp⟩ | ⟨-, hp, -⟩
    · exact hp ▸ List.mem_cons_of_mem _ hpiece
    · exact hp ▸ hpiece
  -- The first step is only made from a folder, so the place it is made from has a way of names.
  have hplace : t.isFolderAt place = true := by
    obtain ⟨piece, others, rfl⟩ := List.exists_cons_of_ne_nil hne
    rw [List.foldlM_cons] at hfold
    obtain ⟨next, hnext, -⟩ := Option.bind_eq_some_iff.mp hfold
    unfold follow at hnext
    split at hnext
    · assumption
    · contradiction
  exact t.isName_foldlM_follow pieces place names hsolid hfold
    (t.isName_of_isFolderAt place ht hplace)

theorem proper_writeFile (t u : FileTree) (path : String) (bytes : List UInt8)
    (ht : t.root.Proper) (h : t.writeFile path bytes = some u) : u.root.Proper := by
  obtain ⟨place, name, hnames, -, -, rfl⟩ := t.writeFile_eq_some u path bytes h
  exact .put _ (t.isName_locate path _ ht hnames) _ _ ht (.file bytes)

theorem proper_makeStep (state next : FileTree × List String) (c : Path.Component)
    (h : makeStep state c = some next) (hs : state.1.root.Proper)
    (hc : ∀ n, c = .name n → admits n = true → IsName n) : next.1.root.Proper := by
  obtain ⟨t, place⟩ := state
  rcases makeStep_cases t place next c h with hsame | ⟨n, hn, -, hplace, hadmits, rfl⟩
  · exact hsame ▸ hs
  · have hnames : ∀ name ∈ place ++ [n], IsName name := by
      intro name hname
      rcases List.mem_append.mp hname with hname | hname
      · exact t.isName_of_isFolderAt place hs hplace name hname
      · rw [List.mem_singleton.mp hname]
        exact hc n hn hadmits
    exact .put _ hnames _ _ hs .empty

theorem proper_attempt (cs : List Path.Component) (state : FileTree × List String)
    (hs : state.1.root.Proper) (hc : ∀ n, .name n ∈ cs → admits n = true → IsName n) :
    (attempt state cs).1.root.Proper := by
  induction cs generalizing state with
  | nil => exact hs
  | cons c cs ih =>
    unfold attempt
    split
    · rename_i next hnext
      have hfirst := proper_makeStep state next c hnext hs fun n hn =>
        hc n (hn ▸ List.mem_cons_self)
      exact ih next hfirst fun n hn => hc n (List.mem_cons_of_mem c hn)
    · exact hs

theorem proper_unwritten (t : FileTree) (path : String) (ht : t.root.Proper) :
    (t.unwritten path).root.Proper :=
  proper_attempt _ (t, t.working) ht fun n hn =>
    IsName.of_mem_components path n (List.dropLast_subset _ hn)

/-- Where a file is written into a tree of files, there is a tree of files afterwards. -/
theorem proper_write (t u : FileTree) (path : String) (bytes : List UInt8)
    (ht : t.root.Proper) (h : t.write path bytes = some u) : u.root.Proper :=
  proper_writeFile (t.unwritten path) u path bytes (t.proper_unwritten path ht)
    (t.writeFile_of_write u path bytes h)

end FileTree

theorem Run.proper_carryOut (t : FileTree) (c : CommandLine) (level : Level) (p : Plan)
    (ht : t.root.Proper) : (carryOut t c level p).files.root.Proper := by
  unfold carryOut
  dsimp only
  split
  · exact ht
  · split
    · rename_i files hwrite
      exact t.proper_write _ _ _ ht (Report.of_write_eq_ok t _ _ _ _ hwrite)
    · exact t.proper_unwritten _ ht

/-- A run leaves a tree of files behind where it found one. -/
theorem proper_run (host : Host) (t : FileTree) (args : List String)
    (env : CommandLine.Environment) (ht : t.root.Proper) :
    (run host t args env).files.root.Proper := by
  unfold run
  split
  · rename_i usage husage
    cases usage <;> exact ht
  · split
    · exact ht
    · exact Run.proper_carryOut t _ _ _ ht

end Glean
