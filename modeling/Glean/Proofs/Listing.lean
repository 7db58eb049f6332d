import Glean.Proofs.ProperTrees
import Mathlib.Data.List.Flatten
import Mathlib.Data.String.Basic

set_option autoImplicit false

/-!
# Listing the files of a folder

Every folder is listed in the order of its names. As paths are compared component by component, the
lists of the folders together are in the order of the paths, and each file is in them once.
-/
namespace Glean

namespace Entry

theorem members_eq_map (path : String) (entries : List (String × Entry)) :
    members path entries = entries.map fun entry =>
      (entry.1, if isVersionControl entry.1 then [] else
        entry.2.paths (Path.join path entry.1)) := by
  induction entries with
  | nil => rfl
  | cons entry entries ih =>
    rw [members, ih]
    rfl

theorem mem_paths_folder (path : String) (entries : List (String × Entry)) (p : String) :
    p ∈ (folder entries).paths path ↔
      ∃ name e, (name, e) ∈ entries ∧ isVersionControl name = false ∧
        p ∈ e.paths (Path.join path name) := by
  rw [paths, members_eq_map, List.mem_flatMap]
  constructor
  · rintro ⟨member, hmember, hp⟩
    rw [List.mem_mergeSort, List.mem_map] at hmember
    obtain ⟨⟨name, e⟩, hentry, rfl⟩ := hmember
    cases hvc : isVersionControl name with
    | true =>
      rw [hvc, if_pos rfl] at hp
      contradiction
    | false =>
      rw [hvc, if_neg Bool.false_ne_true] at hp
      exact ⟨name, e, hentry, hvc, hp⟩
  · rintro ⟨name, e, hentry, hvc, hp⟩
    refine ⟨_, List.mem_mergeSort.mpr (List.mem_map_of_mem hentry), ?_⟩
    rw [hvc, if_neg Bool.false_ne_true]
    exact hp

/-- The names lead to a file, and none of them is one of version control. -/
def Lists (e : Entry) (names : List String) : Prop :=
  (∀ name ∈ names, isVersionControl name = false) ∧ ∃ bytes, e.find? names = some (file bytes)

theorem not_lists_nil (entries : List (String × Entry)) : ¬ (folder entries).Lists [] := by
  rintro ⟨-, bytes, h⟩
  rw [find?_nil] at h
  exact absurd (Option.some.inj h) nofun

theorem lists_cons_iff (entries : List (String × Entry)) (h : (entries.map (·.1)).Nodup)
    (name : String) (names : List String) :
    (folder entries).Lists (name :: names) ↔
      ∃ e, (name, e) ∈ entries ∧ isVersionControl name = false ∧ e.Lists names := by
  unfold Lists
  rw [List.forall_mem_cons]
  constructor
  · rintro ⟨⟨hname, hnames⟩, bytes, hfile⟩
    rw [find?_cons, Option.bind_eq_some_iff] at hfile
    obtain ⟨e, he, hbelow⟩ := hfile
    have hmem := (lookup_eq_some_iff entries h name e).mp he
    exact ⟨e, hmem, hname, hnames, bytes, hbelow⟩
  · rintro ⟨e, hmem, hname, hnames, bytes, hbelow⟩
    refine ⟨⟨hname, hnames⟩, bytes, ?_⟩
    rw [find?_cons, child?, (lookup_eq_some_iff entries h name e).mpr hmem]
    exact hbelow

/-- The files below an entry and no others are listed. -/
theorem mem_paths_iff (path : String) (e : Entry) (h : e.Proper) (p : String) :
    p ∈ e.paths path ↔ ∃ names, e.Lists names ∧ p = Path.joinAll path names := by
  induction h generalizing path with
  | file bytes =>
    rw [paths, List.mem_singleton]
    constructor
    · intro hp
      exact ⟨[], ⟨nofun, bytes, rfl⟩, hp⟩
    · rintro ⟨names, ⟨-, content, hfile⟩, hp⟩
      cases names with
      | nil => exact hp
      | cons name names => contradiction
  | folder entries distinct named below ih =>
    rw [mem_paths_folder]
    constructor
    · rintro ⟨name, e, hmem, hvc, hp⟩
      obtain ⟨names, hlists, hpath⟩ := (ih (name, e) hmem (Path.join path name)).mp hp
      exact ⟨name :: names, (lists_cons_iff entries distinct name names).mpr ⟨e, hmem, hvc, hlists⟩,
        hpath⟩
    · rintro ⟨names, hlists, hpath⟩
      cases names with
      | nil => exact absurd hlists (not_lists_nil entries)
      | cons name names =>
        obtain ⟨e, hmem, hvc, hbelow⟩ := (lists_cons_iff entries distinct name names).mp hlists
        exact ⟨name, e, hmem, hvc,
          (ih (name, e) hmem (Path.join path name)).mpr ⟨names, hbelow, hpath⟩⟩

theorem Lists.isName (e : Entry) (names : List String) (h : e.Proper) (hl : e.Lists names) :
    ∀ name ∈ names, IsName name := by
  obtain ⟨-, bytes, hfile⟩ := hl
  exact (Proper.of_find? e _ names h hfile).2

/-- Entries whose names are distinct have strictly increasing names when they are sorted. -/
theorem pairwise_sorted (entries : List (String × List String)) (h : (entries.map (·.1)).Nodup) :
    (entries.mergeSort fun a b => decide (a.1 ≤ b.1)).Pairwise fun a b => a.1 < b.1 := by
  have hpairs := @List.pairwise_mergeSort (String × List String)
    (fun a b => decide (a.1 ≤ b.1))
    (fun a b c hab hbc => by simpa using le_trans (of_decide_eq_true hab) (of_decide_eq_true hbc))
    (fun a b => by simpa using le_total a.1 b.1) entries
  have hperm := List.mergeSort_perm entries fun a b => decide (a.1 ≤ b.1)
  have hdistinct : ((entries.mergeSort fun a b => decide (a.1 ≤ b.1)).map (·.1)).Nodup :=
    (hperm.map _).nodup_iff.mpr h
  refine hpairs.imp₂ ?_ (List.pairwise_map.mp hdistinct)
  intro a b hle hne
  exact lt_of_le_of_ne (of_decide_eq_true hle) hne

theorem map_fst_members (path : String) (entries : List (String × Entry)) :
    (members path entries).map (·.1) = entries.map (·.1) := by
  rw [members_eq_map, List.map_map]
  rfl

/-- A listing is in the order of the paths. -/
theorem pairwise_paths (path : String) (e : Entry) (h : e.Proper) :
    (e.paths path).Pairwise Path.Precedes := by
  induction h generalizing path with
  | file bytes => exact List.pairwise_singleton _ _
  | folder entries distinct named below ih =>
    rw [paths, List.pairwise_flatMap]
    have hmember (member : String × List String)
        (h : member ∈ (members path entries).mergeSort fun a b => decide (a.1 ≤ b.1)) :
        IsName member.1 ∧ member.2.Pairwise Path.Precedes ∧
          ∀ p ∈ member.2, ∃ names, (∀ name ∈ names, IsName name) ∧
            p = Path.joinAll (Path.join path member.1) names := by
      rw [List.mem_mergeSort, members_eq_map, List.mem_map] at h
      obtain ⟨⟨name, e⟩, hentry, rfl⟩ := h
      refine ⟨named _ hentry, ?_⟩
      dsimp only
      split
      · exact ⟨List.Pairwise.nil, nofun⟩
      · refine ⟨ih _ hentry _, ?_⟩
        intro p hp
        obtain ⟨names, hlists, hpath⟩ := (mem_paths_iff _ e (below _ hentry) p).mp hp
        exact ⟨names, hlists.isName e names (below _ hentry), hpath⟩
    refine ⟨fun member h => (hmember member h).2.1, ?_⟩
    rw [← map_fst_members path entries] at distinct
    refine (pairwise_sorted _ distinct).imp_of_mem ?_
    intro first second hfirst hsecond hlt p hp q hq
    -- The two paths part at the names of the folder's entries.
    obtain ⟨hm, -, hfiles⟩ := hmember first hfirst
    obtain ⟨hn, -, hothers⟩ := hmember second hsecond
    obtain ⟨names, hnames, rfl⟩ := hfiles p hp
    obtain ⟨others, hrest, rfl⟩ := hothers q hq
    exact Path.precedes_of_lt path _ _ hm hn hlt names others hnames hrest

end Entry

namespace FileTree

variable (t : FileTree)

/-- The path of a folder's entry begins where the folder's path does, and a slash at the end of the
folder's path gives way to the name. -/
theorem exists_route?_join (path name : String) (place : List String)
    (pieces : List (List Char)) (hn : IsName name) (h : t.route? path = some (place, pieces)) :
    ∃ front, (pieces = front ∨ pieces = front ++ [[]]) ∧
      t.route? (Path.join path name) = some (place, front ++ [name.toList]) := by
  obtain ⟨hne, hstart⟩ := (t.route?_eq_some_iff path place pieces).mp h
  have hpath : path ≠ "" := by
    rintro rfl
    contradiction
  obtain ⟨front, hfront, hfne, hjoin⟩ := Path.pieces_join path name hpath hn.solid
  simp only [t.route?_eq_some_iff, hjoin]
  rcases hstart with ⟨rfl, hp⟩ | ⟨rfl, hp, hhead⟩
  · -- In front of the slash at the beginning there is an empty piece.
    obtain ⟨first, others, rfl⟩ := List.exists_cons_of_ne_nil hfne
    rw [hp] at hfront
    have hcut : first = [] ∧ (pieces = others ∨ pieces = others ++ [[]]) := by
      rcases hfront with h | h
      · exact ⟨(List.cons.inj h).1.symm, .inl (List.cons.inj h).2⟩
      · exact ⟨(List.cons.inj h).1.symm, .inr (List.cons.inj h).2⟩
    obtain ⟨rfl, hothers⟩ := hcut
    exact ⟨others, hothers, by simp, .inl ⟨rfl, rfl⟩⟩
  · have hsame : (front ++ [name.toList]).head? = pieces.head? := by
      rw [List.head?_append_of_ne_nil _ hfne, ← hp]
      rcases hfront with h | h
      · rw [h]
      · rw [h, List.head?_append_of_ne_nil _ hfne]
    exact ⟨front, hp ▸ hfront, by simp, .inr ⟨rfl, rfl, hsame ▸ hhead⟩⟩

theorem follow_nil (place : List String) :
    t.follow place [] = if t.isFolderAt place then some place else none := rfl

theorem follow_name (place : List String) (name : String) (hn : IsName name) :
    t.follow place name.toList = if t.isFolderAt place then some (place ++ [name]) else none := by
  have hadmits := hn.admitted
  unfold follow
  congr 1
  split
  · rename_i hnil
    exact absurd hnil hn.ne_nil
  · rename_i hhere
    exact absurd hhere hn.notHere
  · rename_i hup
    exact absurd hup hn.notUp
  · rw [String.ofList_toList, if_pos hadmits]

/-- The path of a folder's entry leads on from where the folder's path leads. -/
theorem locate_join (path name : String) (place : List String) (hn : IsName name)
    (h : t.locate path = some place) :
    t.locate (Path.join path name) =
      if t.isFolderAt place then some (place ++ [name]) else none := by
  obtain ⟨start, pieces, hroute, hfold⟩ := (t.locate_eq_some_iff path place).mp h
  obtain ⟨front, hfront, hjoin⟩ := t.exists_route?_join path name start pieces hn hroute
  have hend : front.foldlM (follow t) start = some place := by
    rcases hfront with rfl | rfl
    · exact hfold
    · -- The slash at the end only asks for a folder.
      rw [List.foldlM_append] at hfold
      obtain ⟨stop, hstop, hlast⟩ := Option.bind_eq_some_iff.mp hfold
      rw [List.foldlM_cons, follow_nil] at hlast
      split at hlast
      · have heq : stop = place := Option.some.inj hlast
        rw [hstop, heq]
      · contradiction
  rw [locate, hjoin, Option.bind_some]
  dsimp only
  rw [List.foldlM_append, hend]
  change (t.follow place name.toList).bind some = _
  rw [Option.bind_fun_some, t.follow_name place name hn]

theorem entry?_join (path name : String) (e : Entry) (hn : IsName name)
    (h : t.entry? path = some e) : t.entry? (Path.join path name) = e.child? name := by
  obtain ⟨place, hplace, he⟩ := Option.bind_eq_some_iff.mp h
  unfold entry?
  rw [t.locate_join path name place hn hplace]
  cases e with
  | file bytes =>
    have hfile : ¬ t.isFolderAt place = true := by
      rw [isFolderAt_iff, he]
      simp
    rw [if_neg hfile]
    rfl
  | folder entries =>
    rw [if_pos ((t.isFolderAt_iff place).mpr ⟨entries, he⟩), Option.bind_some, Entry.find?_append,
      he, Option.bind_some, Entry.find?_cons]
    exact Option.bind_fun_some _

theorem entry?_joinAll (path : String) (names : List String) (e below : Entry)
    (hn : ∀ name ∈ names, IsName name) (h : t.entry? path = some e)
    (hb : e.find? names = some below) : t.entry? (Path.joinAll path names) = some below := by
  induction names generalizing path e with
  | nil =>
    rw [Path.joinAll, List.foldl_nil, h]
    exact hb
  | cons name names ih =>
    rw [List.forall_mem_cons] at hn
    rw [Entry.find?_cons, Option.bind_eq_some_iff] at hb
    obtain ⟨next, hnext, hrest⟩ := hb
    have hjoin := t.entry?_join path name e hn.1 h
    exact ih (Path.join path name) next hn.2 (hjoin.trans hnext) hrest

theorem collect_singleton_iff (input : String) (part : List String) :
    t.collect [input] = .ok part ↔ ∃ e, t.entry? input = some e ∧ part = e.paths input := by
  rw [collect, collect]
  cases t.entry? input with
  | none => simp
  | some e =>
    change Except.ok (e.paths input ++ []) = Except.ok part ↔ _
    rw [List.append_nil, Except.ok.injEq]
    constructor
    · intro h
      exact ⟨e, rfl, h.symm⟩
    · rintro ⟨below, hbelow, rfl⟩
      rw [Option.some.inj hbelow]

theorem collect_cons_iff (input : String) (inputs files : List String) :
    t.collect (input :: inputs) = .ok files ↔
      ∃ part others, t.collect [input] = .ok part ∧ t.collect inputs = .ok others ∧
        files = part ++ others := by
  simp only [collect_singleton_iff]
  rw [collect]
  cases t.entry? input with
  | none => simp
  | some e =>
    dsimp only
    cases t.collect inputs with
    | error failure => simp [Except.map]
    | ok others => simp [Except.map, eq_comm]

/-- Some inputs that are all there stand for the files of the first, of the second and so on. -/
theorem collect_eq_ok_iff (inputs files : List String) :
    t.collect inputs = .ok files ↔
      ∃ parts, List.Forall₂ (fun input part => t.collect [input] = .ok part) inputs parts ∧
        files = parts.flatten := by
  induction inputs generalizing files with
  | nil =>
    constructor
    · intro h
      exact ⟨[], .nil, (Except.ok.inj h).symm⟩
    · rintro ⟨parts, hparts, rfl⟩
      cases hparts
      rfl
  | cons input inputs ih =>
    rw [collect_cons_iff]
    constructor
    · rintro ⟨part, others, hpart, hothers, rfl⟩
      obtain ⟨parts, hparts, rfl⟩ := (ih others).mp hothers
      exact ⟨part :: parts, .cons hpart hparts, rfl⟩
    · rintro ⟨parts, hparts, rfl⟩
      cases hparts with
      | cons hpart hparts => exact ⟨_, _, hpart, (ih _).mpr ⟨_, hparts, rfl⟩, rfl⟩

/-- Files stand for themselves. -/
theorem collect_files (files : List String)
    (h : ∀ file ∈ files, ∃ bytes, t.entry? file = some (.file bytes)) :
    t.collect files = .ok files := by
  induction files with
  | nil => rfl
  | cons file files ih =>
    rw [List.forall_mem_cons] at h
    obtain ⟨⟨bytes, hfile⟩, hfiles⟩ := h
    rw [collect_cons_iff]
    refine ⟨[file], files, ?_, ih hfiles, rfl⟩
    exact (t.collect_singleton_iff file [file]).mpr ⟨.file bytes, hfile, rfl⟩

/-- Every path that is listed leads to a file. -/
theorem entry?_of_mem_collect (inputs files : List String) (h : t.root.Proper)
    (hf : t.collect inputs = .ok files) (file : String) (hfile : file ∈ files) :
    ∃ bytes, t.entry? file = some (.file bytes) := by
  induction inputs generalizing files with
  | nil =>
    rw [← Except.ok.inj hf] at hfile
    contradiction
  | cons input inputs ih =>
    obtain ⟨part, others, hpart, hothers, rfl⟩ := (t.collect_cons_iff input inputs files).mp hf
    rcases List.mem_append.mp hfile with hfile | hfile
    · obtain ⟨e, he, rfl⟩ := (t.collect_singleton_iff input part).mp hpart
      obtain ⟨place, -, hplace⟩ := Option.bind_eq_some_iff.mp he
      have hproper := (Entry.Proper.of_find? t.root e place h hplace).1
      obtain ⟨names, hlists, rfl⟩ := (e.mem_paths_iff input hproper file).mp hfile
      have hnames := hlists.isName e names hproper
      obtain ⟨-, bytes, hbytes⟩ := hlists
      exact ⟨bytes, t.entry?_joinAll input names e _ hnames he hbytes⟩
    · exact ih others hothers hfile

/-- A listing has every file of a folder once, in the order of the paths. -/
structure IsListing (e : Entry) (input : String) (files : List String) : Prop where
  mem_iff : ∀ path, path ∈ files ↔ ∃ names, e.Lists names ∧ path = Path.joinAll input names
  apart : ∀ names others, e.Lists names → e.Lists others →
    Path.joinAll input names = Path.joinAll input others → names = others
  nodup : files.Nodup
  increasing : files.Pairwise Path.Precedes

theorem isListing_paths (e : Entry) (input : String) (h : e.Proper) :
    IsListing e input (e.paths input) where
  mem_iff := e.mem_paths_iff input h
  apart := by
    intro names others hnames hothers hpaths
    exact Path.joinAll_inj input names others (hnames.isName e names h)
      (hothers.isName e others h) hpaths
  nodup := by
    refine (e.pairwise_paths input h).imp ?_
    rintro p _ hprecedes rfl
    exact Path.not_precedes_self p hprecedes
  increasing := e.pairwise_paths input h

/-- Inputs are expanded one behind the other, a folder to its listing and a file to itself. A
missing input is an error, the first one that is missing, and the files that come out stand for
themselves. -/
theorem collect_lists (h : t.root.Proper) :
    (∀ input entries, t.entry? input = some (.folder entries) →
      ∃ files, t.collect [input] = .ok files ∧ IsListing (.folder entries) input files) ∧
    (∀ input bytes, t.entry? input = some (.file bytes) → t.collect [input] = .ok [input]) ∧
    (∀ inputs files, t.collect inputs = .ok files ↔
      ∃ parts, List.Forall₂ (fun input part => t.collect [input] = .ok part) inputs parts ∧
        files = parts.flatten) ∧
    (∀ inputs f, t.collect inputs = .error f ↔
      ∃ before path behind, inputs = before ++ path :: behind ∧
        (∀ other ∈ before, t.entry? other ≠ none) ∧ t.entry? path = none ∧
        f = .missingInput path) ∧
    ∀ inputs files, t.collect inputs = .ok files →
      (∀ file ∈ files, ∃ bytes, t.entry? file = some (.file bytes)) ∧
        t.collect files = .ok files := by
  refine ⟨?_, ?_, t.collect_eq_ok_iff, t.collect_eq_error_iff, ?_⟩
  · intro input entries hinput
    obtain ⟨place, -, hplace⟩ := Option.bind_eq_some_iff.mp hinput
    have hproper := (Entry.Proper.of_find? t.root _ place h hplace).1
    exact ⟨_, (t.collect_singleton_iff input _).mpr ⟨_, hinput, rfl⟩,
      isListing_paths _ input hproper⟩
  · intro input bytes hinput
    exact (t.collect_singleton_iff input _).mpr ⟨_, hinput, rfl⟩
  · intro inputs files hfiles
    have hread := t.entry?_of_mem_collect inputs files h hfiles
    exact ⟨hread, t.collect_files files hread⟩

/-- A folder beside files whose names begin as its own does, and a run that works in it. -/
def neighbours : FileTree where
  root := .folder [("src", .folder [("a.js", .file []), ("a-b.js", .file []),
    (".git", .folder [("config", .file [])]), ("a", .folder [("x.js", .file [])])])]
  working := ["src", "a"]

theorem proper_neighbours : neighbours.root.Proper := by
  have hx : Entry.Proper (.folder [("x.js", .file [])]) :=
    .folder _ (by decide) (by simp; decide) (by simp [Entry.Proper.file])
  have hgit : Entry.Proper (.folder [("config", .file [])]) :=
    .folder _ (by decide) (by simp; decide) (by simp [Entry.Proper.file])
  have hsrc : Entry.Proper (.folder [("a.js", .file []), ("a-b.js", .file []),
      (".git", .folder [("config", .file [])]), ("a", .folder [("x.js", .file [])])]) :=
    .folder _ (by decide) (by simp; decide) (by simp [Entry.Proper.file, hx, hgit])
  exact .folder _ (by decide) (by simp; decide) (by simp [hsrc])

theorem collect_neighbours : neighbours.collect ["/src/", "..", "x.js"] =
    .ok ["/src/a/x.js", "/src/a-b.js", "/src/a.js", "../a/x.js", "../a-b.js", "../a.js",
      "x.js"] := by
  have hone (input : String) (e : Entry) (h : neighbours.entry? input = some e) :
      neighbours.collect [input] = .ok (e.paths input) :=
    (neighbours.collect_singleton_iff input _).mpr ⟨e, h, rfl⟩
  have hothers := (neighbours.collect_cons_iff ".." ["x.js"] _).mpr
    ⟨_, _, hone ".." _ rfl, hone "x.js" _ rfl, rfl⟩
  refine (neighbours.collect_cons_iff "/src/" _ _).mpr ⟨_, _, hone "/src/" _ rfl, hothers, ?_⟩
  simp only [Entry.paths, Entry.members, isVersionControl]
  simp [List.mergeSort, List.MergeSort.Internal.splitInTwo]
  decide +kernel

/-- The folder by a path from the root and by one that climbs to it, and a file of the folder that
the run works in. -/
theorem collect_lists_neighbours :
    neighbours.root.Proper ∧ ∃ entries files,
      neighbours.entry? "/src/" = some (.folder entries) ∧
      neighbours.entry? ".." = some (.folder entries) ∧
      (∃ part, neighbours.collect [".."] = .ok part ∧
        IsListing (.folder entries) ".." part) ∧
      neighbours.collect ["/src/", "..", "x.js"] = .ok files ∧
      files = ["/src/a/x.js", "/src/a-b.js", "/src/a.js", "../a/x.js", "../a-b.js", "../a.js",
        "x.js"] ∧
      neighbours.collect files = .ok files ∧
      neighbours.collect ["..", "/x.js"] = .error (.missingInput "/x.js") := by
  obtain ⟨hfolder, -, -, hmissing, hfixed⟩ := neighbours.collect_lists proper_neighbours
  have hfiles := collect_neighbours
  refine ⟨proper_neighbours, _, _, rfl, rfl, hfolder ".." _ rfl, hfiles, rfl,
    (hfixed _ _ hfiles).2, (hmissing _ _).mpr ⟨[".."], "/x.js", [], rfl, ?_, rfl, rfl⟩⟩
  intro other hother
  rw [List.mem_singleton.mp hother]
  exact Option.some_ne_none _

end FileTree

end Glean
