import Glean.Proofs.Narrowing
import Glean.Proofs.ReportPath
import Glean.Proofs.SettingSources

set_option autoImplicit false

/-!
# Which files a search goes into

A file is gone into by what follows the last dot of its name. So a suffix selects every file that is
named by it, but one with a dot of its own selects none.
-/
namespace Glean

namespace Path

/-- A text that the name of a file can follow: nothing, or a text with a slash at its end. -/
def IsFolder (folder : List Char) : Prop := folder = [] ∨ folder.getLast? = some '/'

theorem behindSlash_folder (folder name : List Char) (hf : IsFolder folder) (hn : '/' ∉ name) :
    behindSlash (folder ++ name) = name := by
  rcases hf with rfl | hlast
  · exact behindSlash_of_not_mem name hn
  · obtain ⟨above, rfl⟩ := List.getLast?_eq_some_iff.mp hlast
    rw [List.append_assoc, List.singleton_append, behindSlash_slash above name hn]

/-- The extension of a file in a folder, by its name. -/
theorem extension?_of_stem (folder stem ext : List Char) (hf : IsFolder folder) (hs : stem ≠ [])
    (hstem : '/' ∉ stem) (hslash : '/' ∉ ext) (hdot : '.' ∉ ext) (hne : ext ≠ []) :
    extension? (String.ofList (folder ++ (stem ++ '.' :: ext))) = some (String.ofList ext) := by
  have htext : (String.ofList (folder ++ (stem ++ '.' :: ext))).toList =
      (folder ++ stem) ++ '.' :: ext := by
    rw [String.toList_ofList, List.append_assoc]
  rw [extension?_of_toList _ _ ext htext hslash hdot hne, behindSlash_folder folder stem hf hstem,
    if_neg hs]

theorem extensionOf?_of_not_mem (name : List Char) (h : '.' ∉ name) : extensionOf? name = none := by
  have hall := takeWhile_reverse_append name [] '.' h
  rw [List.append_nil, List.takeWhile_nil, List.append_nil] at hall
  unfold extensionOf?
  dsimp only
  rw [hall, List.length_reverse, if_neg fun hboth => Nat.lt_irrefl _ hboth.1]

/-- An extension follows the last dot of a name, and something stands in front of that dot. -/
theorem exists_stem (name ext : List Char) (h : extensionOf? name = some ext) :
    ∃ stem, stem ≠ [] ∧ name = stem ++ '.' :: ext ∧ '.' ∉ ext := by
  by_cases hmem : '.' ∈ name
  · obtain ⟨stem, behind, rfl, hbehind⟩ := exists_last_cut name '.' hmem
    rw [extensionOf?_append stem behind hbehind] at h
    split at h
    · contradiction
    · rename_i hstem
      obtain rfl := Option.some.inj h
      exact ⟨stem, hstem, rfl, hbehind⟩
  · rw [extensionOf?_of_not_mem name hmem] at h
    contradiction

theorem component?_eq_none (piece : List Char) (h : component? piece = none) :
    piece = [] ∨ piece = ['.'] := by
  unfold component? at h
  split at h
  · exact .inl rfl
  · exact .inr rfl
  · contradiction
  · contradiction

/-- A piece that means something is the last component where it stands last. -/
theorem getLast?_componentsOf_concat (front : List (List Char)) (piece : List Char) (c : Component)
    (h : component? piece = some c) : (componentsOf (front ++ [piece])).getLast? = some c := by
  by_cases hfront : front = []
  · rw [hfront, List.nil_append, componentsOf_singleton piece c h]
    rfl
  · rw [componentsOf_concat front piece hfront, h, Option.toList_some, List.getLast?_concat]

/-- A piece that means nothing leaves the name in front of it the last component. -/
theorem getLast?_componentsOf_idle (front : List (List Char)) (piece : List Char) (n : String)
    (hpiece : component? piece = none)
    (h : (componentsOf (front ++ [piece])).getLast? = some (.name n)) :
    (componentsOf front).getLast? = some (.name n) := by
  by_cases hfront : front = []
  · rw [hfront] at h
    rcases component?_eq_none piece hpiece with rfl | rfl <;> cases h
  · rw [componentsOf_concat front piece hfront, hpiece, Option.toList_none, List.append_nil] at h
    by_cases hroot : front = [[]]
    · rw [hroot] at h
      cases h
    · rwa [componentsOf_append_empty front hfront hroot] at h

/-- The last component is the last piece that means anything. -/
theorem exists_last_piece (ps : List (List Char)) (n : String)
    (h : (componentsOf ps).getLast? = some (.name n)) :
    ∃ front idle, ps = front ++ n.toList :: idle ∧ ∀ piece ∈ idle, piece = [] ∨ piece = ['.'] := by
  induction ps using List.reverseRecOn with
  | nil => contradiction
  | append_singleton front piece ih =>
    cases hpiece : component? piece with
    | none =>
      obtain ⟨before, idle, rfl, hall⟩ := ih (getLast?_componentsOf_idle front piece n hpiece h)
      refine ⟨before, idle ++ [piece], by rw [List.append_assoc, List.cons_append], ?_⟩
      intro other hmem
      rcases List.mem_append.mp hmem with hmem | hmem
      · exact hall other hmem
      · exact List.mem_singleton.mp hmem ▸ component?_eq_none piece hpiece
    | some c =>
      rw [getLast?_componentsOf_concat front piece c hpiece] at h
      obtain rfl := Option.some.inj h
      obtain ⟨rfl, -, -⟩ := component?_eq_name piece n hpiece
      exact ⟨front, [], by rw [String.toList_ofList], nofun⟩

/-- The name of a file and its extension, where a path has them. -/
theorem exists_name_of_extension? (path ext : String) (h : extension? path = some ext) :
    ∃ front name stem idle, fileName? path = some name ∧
      pieces path.toList = front ++ name.toList :: idle ∧
      (∀ piece ∈ idle, piece = [] ∨ piece = ['.']) ∧
      stem ≠ [] ∧ name.toList = stem ++ '.' :: ext.toList ∧ '.' ∉ ext.toList := by
  obtain ⟨name, hname, hext⟩ := Option.bind_eq_some_iff.mp h
  obtain ⟨found, hfound, rfl⟩ := Option.map_eq_some_iff.mp hext
  obtain ⟨stem, hstem, htext, hdot⟩ := exists_stem name.toList found hfound
  have hlast : (componentsOf (pieces path.toList)).getLast? = some (.name name) := by
    rw [← components_eq]
    unfold fileName? at hname
    split at hname
    · rename_i n hn
      rw [hn, Option.some.inj hname]
    · contradiction
  obtain ⟨front, idle, hpieces, hidle⟩ := exists_last_piece _ name hlast
  rw [String.toList_ofList]
  exact ⟨front, name, stem, idle, hname, hpieces, hidle, hstem, htext, hdot⟩

end Path

theorem Settings.exists_merge_of_resolve (t : FileTree) (c : CommandLine) (settings : Settings)
    (h : Settings.resolve t c = .ok settings) : ∃ f, settings = Settings.merge c f := by
  unfold Settings.resolve at h
  split at h
  · obtain ⟨f, -, hmerge⟩ := (bind_eq_ok_iff _ _ _).mp h
    exact ⟨f, (Except.ok.inj hmerge).symm⟩
  · exact ⟨{}, (Except.ok.inj h).symm⟩

theorem Settings.empty_not_mem_suffixes (t : FileTree) (c : CommandLine) (settings : Settings)
    (h : Settings.resolve t c = .ok settings) : "" ∉ settings.suffixes := by
  obtain ⟨f, rfl⟩ := exists_merge_of_resolve t c settings h
  have hsuffixes : (merge c f).suffixes = Setting.settle .suffixes (c.suffixes.or f.suffixes) :=
    Setting.suffixes_getD _
  rw [hsuffixes]
  exact Setting.empty_not_mem_settle _

namespace Search

variable (s : Search)

theorem extension?_eq_some_iff (path ext : String) :
    s.extension? path = some ext ↔
      Path.extension? path = some ext ∧ ext ∈ s.suffixes ∧ s.excludes path = false := by
  rw [extension?, Option.filter_eq_some_iff, Bool.and_eq_true, List.contains_iff_mem,
    Bool.not_eq_true']

theorem excludes_eq_false (host : Host) (settings : Settings)
    (hs : ofSettings host settings = .ok s)
    (h : settings.exclusion = none) (path : String) : s.excludes path = false := by
  obtain ⟨-, hexclusion, -⟩ := ofSettings_eq_ok host settings s hs
  rw [h] at hexclusion
  have hnone : s.exclusion = none := (Except.ok.inj hexclusion).symm
  rw [excludes, hnone]

/-- A search without an exclusion goes into every file that is named by a suffix without a dot and
into none by a suffix with one, and a file that it goes into is named by a suffix: behind the last
slash, leaving aside pieces that mean nothing, stands a name that ends in a dot and that suffix. -/
theorem extension?_of_suffix (host : Host) (t : FileTree) (c : CommandLine) (settings : Settings)
    (hsettings : Settings.resolve t c = .ok settings) (hs : ofSettings host settings = .ok s) :
    (settings.exclusion = none → ∀ suffix ∈ settings.suffixes, '/' ∉ suffix.toList →
      '.' ∉ suffix.toList → ∀ folder stem, Path.IsFolder folder → stem ≠ [] → '/' ∉ stem →
        s.extension? (String.ofList (folder ++ (stem ++ '.' :: suffix.toList))) = some suffix) ∧
    (∀ suffix, '.' ∈ suffix.toList → ∀ path, s.extension? path ≠ some suffix) ∧
    ∀ path ext, s.extension? path = some ext → ext ∈ settings.suffixes ∧ ext ≠ "" ∧
      ∃ front name stem idle, Path.fileName? path = some name ∧
        Path.pieces path.toList = front ++ name.toList :: idle ∧
        (∀ piece ∈ idle, piece = [] ∨ piece = ['.']) ∧
        stem ≠ [] ∧ name.toList = stem ++ '.' :: ext.toList := by
  obtain ⟨-, -, hsuffixes⟩ := ofSettings_eq_ok host settings s hs
  have hempty := Settings.empty_not_mem_suffixes t c settings hsettings
  refine ⟨?_, ?_, ?_⟩
  · intro hnone suffix hmem hslash hdot folder stem hf hstem hsolid
    have hsome : suffix.toList ≠ [] := by
      intro hnil
      exact hempty (String.toList_eq_nil_iff.mp hnil ▸ hmem)
    have hext := Path.extension?_of_stem folder stem suffix.toList hf hstem hsolid hslash hdot hsome
    rw [String.ofList_toList] at hext
    rw [extension?_eq_some_iff, hsuffixes]
    exact ⟨hext, hmem, s.excludes_eq_false host settings hs hnone _⟩
  · intro suffix hdot path hext
    obtain ⟨hpath, -, -⟩ := (s.extension?_eq_some_iff path suffix).mp hext
    obtain ⟨-, -, -, -, -, -, -, -, -, hnone⟩ := Path.exists_name_of_extension? path suffix hpath
    exact hnone hdot
  · intro path ext hext
    obtain ⟨hpath, hmem, -⟩ := (s.extension?_eq_some_iff path ext).mp hext
    rw [hsuffixes] at hmem
    obtain ⟨front, name, stem, idle, hname, hpieces, hidle, hstem, htext, -⟩ :=
      Path.exists_name_of_extension? path ext hpath
    refine ⟨hmem, ?_, front, name, stem, idle, hname, hpieces, hidle, hstem, htext⟩
    rintro rfl
    exact hempty hmem

/-- A suffix with a dot of its own. -/
theorem extension?_of_dotted_suffix :
    ∃ c settings s, CommandLine.read ["src", "-s", "d.ts"] [] = .ok c ∧
      Settings.resolve {} c = .ok settings ∧ ofSettings .ample settings = .ok s ∧
      settings.exclusion = none ∧ "d.ts" ∈ settings.suffixes ∧ '/' ∉ "d.ts".toList ∧
      s.extension? "a.d.ts" = none := by
  exact ⟨_, _, _, rfl, rfl, rfl, rfl, by decide +kernel, by decide, by decide +kernel⟩

/-- A hidden file in a folder whose name has a dot, and a path that goes on behind its last name. -/
theorem extension?_of_suffix_hidden_file :
    ∃ c settings s, CommandLine.read ["src", "-s", " .vue,d.ts"] [] = .ok c ∧
      Settings.resolve {} c = .ok settings ∧ ofSettings .ample settings = .ok s ∧
      settings.exclusion = none ∧ settings.suffixes = ["vue", "d.ts"] ∧
      s.extension? "src/a.b/.x.vue" = some "vue" ∧ s.extension? "a.d.ts" ≠ some "d.ts" ∧
      s.extension? "b/c.vue//." = some "vue" ∧
      ∃ front name stem idle, Path.fileName? "b/c.vue//." = some name ∧
        Path.pieces "b/c.vue//.".toList = front ++ name.toList :: idle ∧
        (∀ piece ∈ idle, piece = [] ∨ piece = ['.']) ∧
        stem ≠ [] ∧ name.toList = stem ++ '.' :: "vue".toList := by
  obtain ⟨c, settings, s, hread, hsettings, hs, hnone, hsuffixes⟩ :
      ∃ c settings s, CommandLine.read ["src", "-s", " .vue,d.ts"] [] = .ok c ∧
        Settings.resolve {} c = .ok settings ∧ ofSettings .ample settings = .ok s ∧
        settings.exclusion = none ∧ settings.suffixes = ["vue", "d.ts"] :=
    ⟨_, _, _, rfl, rfl, rfl, rfl, by decide +kernel⟩
  obtain ⟨named, dotted, found⟩ := extension?_of_suffix s .ample {} c settings hsettings hs
  have hmem : "vue" ∈ settings.suffixes := by rw [hsuffixes]; exact List.mem_cons_self
  have hfound : s.extension? "b/c.vue//." = some "vue" := by
    obtain ⟨-, -, hsame⟩ := ofSettings_eq_ok .ample settings s hs
    rw [extension?_eq_some_iff, hsame]
    exact ⟨by decide +kernel, hmem, s.excludes_eq_false .ample settings hs hnone _⟩
  refine ⟨c, settings, s, hread, hsettings, hs, hnone, hsuffixes, ?_, ?_, hfound,
    (found _ _ hfound).2.2⟩
  · exact named hnone "vue" hmem (by decide) (by decide) "src/a.b/".toList ".x".toList
      (.inr rfl) (by decide) (by decide)
  · exact dotted "d.ts" (by decide) "a.d.ts"

end Search

end Glean
