import Glean.Proofs.SettingSources
import Glean.Proofs.Trimming

set_option autoImplicit false

/-!
# Forms of suffixes

A suffix is freed of the white space around it and then of the dots in front, each of them once and
in this order. What is left has white space in front exactly where white space stood behind the
dots; only then does a second pass find more to take away.
-/
namespace Glean

namespace Settings

/-- A suffix as it is meant: something without a dot in front and without white space around it. -/
structure IsNormal (suffix : String) : Prop where
  something : suffix ≠ ""
  noDot : suffix.toList.head? ≠ some '.'
  trimmed : Text.Trimmed suffix.toList

/-- White space stands behind the dots that an entry begins with. -/
def HidesBlank (entry : String) : Prop :=
  ∃ dots blank rest, Text.trim entry.toList = List.replicate dots '.' ++ blank :: rest ∧
    Text.isBlank blank = true

/-- Dots are all that is taken from a trimmed entry. -/
theorem exists_dots (entry : String) :
    ∃ dots, Text.trim entry.toList = List.replicate dots '.' ++ (trimSuffix entry).toList := by
  refine ⟨((Text.trim entry.toList).takeWhile (· = '.')).length, ?_⟩
  have hdots : (Text.trim entry.toList).takeWhile (· = '.') =
      List.replicate ((Text.trim entry.toList).takeWhile (· = '.')).length '.' := by
    apply List.eq_replicate_of_mem
    intro c hc
    simpa using List.mem_takeWhile_imp hc
  rw [← hdots, trimSuffix, String.toList_ofList, List.takeWhile_append_dropWhile]

theorem head?_trimSuffix_ne_dot (entry : String) : (trimSuffix entry).toList.head? ≠ some '.' := by
  intro hdot
  have hnot := List.head?_dropWhile_not (fun c => decide (c = '.')) (Text.trim entry.toList)
  rw [trimSuffix, String.toList_ofList] at hdot
  rw [hdot] at hnot
  contradiction

theorem isBlank_getLast?_trimSuffix (entry : String) (c : Char)
    (hc : c ∈ (trimSuffix entry).toList.getLast?) : Text.isBlank c = false := by
  obtain ⟨dots, htrim⟩ := exists_dots entry
  apply (Text.trimmed_trim entry.toList).back c
  rw [htrim]
  exact List.mem_getLast?_append_of_mem_getLast? hc

/-- Hidden white space is what comes out in front. -/
theorem hidesBlank_iff (entry : String) :
    HidesBlank entry ↔ ∃ c ∈ (trimSuffix entry).toList.head?, Text.isBlank c = true := by
  obtain ⟨dots, htrim⟩ := exists_dots entry
  constructor
  · rintro ⟨n, blank, rest, hhides, hblank⟩
    have hne : blank ≠ '.' := by
      rintro rfl
      exact absurd hblank (by decide)
    have hleft : (trimSuffix entry).toList = blank :: rest := by
      rw [trimSuffix, String.toList_ofList, hhides, List.dropWhile_append_of_pos (by simp),
        List.dropWhile_cons_of_neg (by simpa using hne)]
    exact ⟨blank, by rw [hleft]; rfl, hblank⟩
  · rintro ⟨blank, hhead, hblank⟩
    obtain ⟨rest, hrest⟩ := List.head?_eq_some_iff.mp hhead
    exact ⟨dots, blank, rest, hrest ▸ htrim, hblank⟩

instance (entry : String) : Decidable (HidesBlank entry) :=
  decidable_of_iff ((trimSuffix entry).toList.head?.any Text.isBlank = true)
    ((Option.any_eq_true _ _).trans (hidesBlank_iff entry).symm)

theorem isNormal_trimSuffix_iff (entry : String) (h : trimSuffix entry ≠ "") :
    IsNormal (trimSuffix entry) ↔ ¬HidesBlank entry := by
  rw [hidesBlank_iff]
  constructor
  · rintro hnormal ⟨c, hc, hblank⟩
    rw [hnormal.trimmed.front c hc] at hblank
    exact Bool.false_ne_true hblank
  · intro hnot
    refine ⟨h, head?_trimSuffix_ne_dot entry, ?_, isBlank_getLast?_trimSuffix entry⟩
    intro c hc
    exact Bool.eq_false_iff.mpr fun hblank => hnot ⟨c, hc, hblank⟩

/-- Nothing is taken from a suffix as it is meant, and from any other something is. -/
theorem isNormal_iff (suffix : String) :
    IsNormal suffix ↔ suffix ≠ "" ∧ trimSuffix suffix = suffix := by
  constructor
  · intro h
    refine ⟨h.something, ?_⟩
    have hkept : suffix.toList.dropWhile (· = '.') = suffix.toList := by
      cases htext : suffix.toList with
      | nil => rfl
      | cons c rest =>
        have hc : c ≠ '.' := fun hc => h.noDot (by rw [htext, hc]; rfl)
        exact List.dropWhile_cons_of_neg (by simpa using hc)
    rw [trimSuffix, h.trimmed.trim_eq, hkept, String.ofList_toList]
  · rintro ⟨hne, hself⟩
    obtain ⟨dots, htrim⟩ := exists_dots suffix
    obtain ⟨blank, rest, -, htext⟩ := Text.exists_trim suffix.toList
    -- What is left is as long as the whole, so nothing was taken at any step.
    have hlength := congrArg List.length htext
    have hshort := congrArg List.length htrim
    rw [hself, List.length_append] at hshort
    rw [List.length_append, List.length_append] at hlength
    have hblank : blank = [] := List.eq_nil_of_length_eq_zero (by omega)
    have hrest : rest = [] := List.eq_nil_of_length_eq_zero (by omega)
    rw [hblank, hrest, List.append_nil, List.nil_append] at htext
    refine ⟨hne, hself ▸ head?_trimSuffix_ne_dot suffix, ?_⟩
    rw [htext]
    exact Text.trimmed_trim _

/-- Suffixes that are as they are meant are those that a further pass leaves alone. -/
theorem normalizeSuffixes_eq_self_iff (list : List String) :
    normalizeSuffixes list = list ↔ ∀ suffix ∈ list, IsNormal suffix := by
  constructor
  · intro hself
    have hlength : (normalizeSuffixes list).length = (list.map trimSuffix).length := by
      rw [hself, List.length_map]
    rw [normalizeSuffixes, List.length_filter_eq_length_iff] at hlength
    rw [normalizeSuffixes, List.filter_eq_self.mpr hlength] at hself
    intro suffix hmem
    have hkept : trimSuffix suffix = suffix :=
      List.map_inj_left.mp (hself.trans (List.map_id list).symm) suffix hmem
    have hne := hlength (trimSuffix suffix) (List.mem_map_of_mem hmem)
    rw [hkept] at hne
    exact (isNormal_iff suffix).mpr ⟨by simpa using hne, hkept⟩
  · intro hall
    have hkept (suffix : String) (hmem : suffix ∈ list) : trimSuffix suffix = suffix :=
      ((isNormal_iff suffix).mp (hall suffix hmem)).2
    rw [normalizeSuffixes, List.map_congr_left hkept, List.map_id', List.filter_eq_self]
    intro suffix hmem
    simpa using (hall suffix hmem).something

/-- An entry that hides white space is not used up. -/
theorem HidesBlank.trimSuffix_ne_empty {entry : String} (h : HidesBlank entry) :
    trimSuffix entry ≠ "" := by
  intro hempty
  obtain ⟨c, hc, -⟩ := (hidesBlank_iff entry).mp h
  rw [hempty] at hc
  exact Option.not_mem_none c hc

/-- The suffixes of a list are what is left of those entries that something is left of. -/
theorem normalizeSuffixes_eq (list : List String) :
    normalizeSuffixes list = (list.filter Setting.isUsable).map trimSuffix := by
  have hsome : (fun s : String => decide (s ≠ "")) ∘ trimSuffix = Setting.isUsable := by
    funext entry
    rw [Bool.eq_iff_iff, Function.comp_apply, decide_eq_true_eq, Ne,
      Setting.trimSuffix_eq_empty_iff, Bool.not_eq_false]
  rw [normalizeSuffixes, List.filter_map, hsome]

theorem isNormal_normalizeSuffixes_iff (list : List String) :
    (∀ suffix ∈ normalizeSuffixes list, IsNormal suffix) ↔ ∀ entry ∈ list, ¬HidesBlank entry := by
  constructor
  · intro hall entry hmem hhides
    have hne := hhides.trimSuffix_ne_empty
    have hleft : trimSuffix entry ∈ normalizeSuffixes list :=
      List.mem_filter.mpr ⟨List.mem_map_of_mem hmem, by simpa using hne⟩
    exact (isNormal_trimSuffix_iff entry hne).mp (hall _ hleft) hhides
  · intro hnone suffix hmem
    obtain ⟨hleft, hne⟩ := List.mem_filter.mp hmem
    obtain ⟨entry, hentry, rfl⟩ := List.mem_map.mp hleft
    exact (isNormal_trimSuffix_iff entry (by simpa using hne)).mpr (hnone entry hentry)

theorem settle_eq_self_iff (list : List String) (h : list ≠ []) :
    Setting.settle .suffixes (some list) = list ↔ normalizeSuffixes list = list := by
  rw [Setting.settle]
  by_cases husable : list.any Setting.isUsable = true
  · rw [if_pos husable]
  · rw [if_neg husable]
    have hnil : normalizeSuffixes list = [] :=
      (Setting.normalizeSuffixes_eq_nil_iff list).mpr (Bool.eq_false_iff.mpr husable)
    constructor
    · intro hdefault
      rw [← hdefault] at husable
      exact absurd (by decide +kernel) husable
    · intro hself
      exact absurd (hself.symm.trans hnil) h

/-- Suffixes that were settled once are settled to the same again exactly if the list that they were
made of hides no white space. -/
theorem settle_again_iff (list : List String) :
    Setting.settle .suffixes (some (Setting.settle .suffixes (some list))) =
        Setting.settle .suffixes (some list) ↔ ∀ entry ∈ list, ¬HidesBlank entry := by
  rw [settle_eq_self_iff _ (Setting.settle_suffixes_ne_nil _), normalizeSuffixes_eq_self_iff,
    Setting.settle]
  split
  · exact isNormal_normalizeSuffixes_iff list
  · rename_i husable
    -- Nothing is left of any entry, so none hides white space, and the default suffixes are normal.
    have hnone : ∀ entry ∈ list, ¬HidesBlank entry := by
      intro entry hmem hhides
      apply hhides.trimSuffix_ne_empty
      rw [Setting.trimSuffix_eq_empty_iff, ← Bool.not_eq_true]
      exact fun hsome => husable (List.any_eq_true.mpr ⟨entry, hmem, hsome⟩)
    have hdefault : normalizeSuffixes defaultSuffixes = defaultSuffixes := by decide +kernel
    exact iff_of_true ((normalizeSuffixes_eq_self_iff _).mp hdefault) hnone

theorem suffixes_merge (c : CommandLine) (f : FileSettings) (list : List String)
    (h : c.suffixes.or f.suffixes = some list) :
    (merge c f).suffixes = Setting.settle .suffixes (some list) := by
  rw [← h]
  exact Setting.suffixes_getD _

/-- The suffixes of a list keep the order of their entries, and none is empty, begins with a dot or
ends in white space. They are as they are meant, a further pass leaves them alone, and settings that
are given them anew come to the same exactly if no entry hides white space behind the dots that it
begins with. -/
theorem normalizeSuffixes_normal_iff (list : List String) :
    normalizeSuffixes list = (list.filter Setting.isUsable).map trimSuffix ∧
    (∀ entry, ∃ dots,
      Text.trim entry.toList = List.replicate dots '.' ++ (trimSuffix entry).toList) ∧
    (∀ suffix ∈ normalizeSuffixes list, suffix ≠ "" ∧ suffix.toList.head? ≠ some '.' ∧
      ∀ c ∈ suffix.toList.getLast?, Text.isBlank c = false) ∧
    ((∀ suffix ∈ normalizeSuffixes list, IsNormal suffix) ↔ ∀ entry ∈ list, ¬HidesBlank entry) ∧
    (normalizeSuffixes (normalizeSuffixes list) = normalizeSuffixes list ↔
      ∀ entry ∈ list, ¬HidesBlank entry) ∧
    ∀ (c : CommandLine) (f : FileSettings), c.suffixes.or f.suffixes = some list →
      ((merge { c with suffixes := some (merge c f).suffixes } f).suffixes =
        (merge c f).suffixes ↔ ∀ entry ∈ list, ¬HidesBlank entry) := by
  refine ⟨normalizeSuffixes_eq list, exists_dots, ?_, isNormal_normalizeSuffixes_iff list, ?_, ?_⟩
  · intro suffix hmem
    obtain ⟨hleft, hne⟩ := List.mem_filter.mp hmem
    obtain ⟨entry, -, rfl⟩ := List.mem_map.mp hleft
    exact ⟨by simpa using hne, head?_trimSuffix_ne_dot entry, isBlank_getLast?_trimSuffix entry⟩
  · rw [normalizeSuffixes_eq_self_iff]
    exact isNormal_normalizeSuffixes_iff list
  · intro c f hlist
    rw [suffixes_merge c f list hlist, suffixes_merge _ f _ rfl]
    exact settle_again_iff list

/-- A command line with a blank between the dot and the name of a suffix. -/
theorem resolve_keeps_hidden_blank :
    ∃ c s, CommandLine.read ["src", "-s", ". js"] [] = .ok c ∧ resolve {} c = .ok s ∧
      s.suffixes = [" js"] ∧ ¬IsNormal " js" ∧ normalizeSuffixes [" js"] = ["js"] ∧
      ∃ d again, CommandLine.read ["src", "-s", " js"] [] = .ok d ∧ resolve {} d = .ok again ∧
        again.suffixes = ["js"] := by
  refine ⟨_, _, rfl, rfl, by decide +kernel, ?_, by decide +kernel, _, _, rfl, rfl,
    by decide +kernel⟩
  intro hnormal
  exact absurd (hnormal.trimmed.front ' ' rfl) (by decide)

/-- White space around dots and inside a name, and an entry that nothing is left of. -/
theorem normalizeSuffixes_normal_spaced :
    let list := ["\u3000..vue ", " . ", "js ts"]
    let c : CommandLine := { suffixes := some list }
    (∀ entry ∈ list, ¬HidesBlank entry) ∧ normalizeSuffixes list = ["vue", "js ts"] ∧
      (∀ suffix ∈ normalizeSuffixes list, IsNormal suffix) ∧
      normalizeSuffixes (normalizeSuffixes list) = normalizeSuffixes list ∧
      (merge { c with suffixes := some (merge c {}).suffixes } {}).suffixes =
        (merge c {}).suffixes := by
  intro list c
  have hnone : ∀ entry ∈ list, ¬HidesBlank entry := by decide +kernel
  obtain ⟨-, -, -, normal, again, settled⟩ := normalizeSuffixes_normal_iff list
  exact ⟨hnone, by decide +kernel, normal.mpr hnone, again.mpr hnone,
    (settled c {} rfl).mpr hnone⟩

end Settings

end Glean
