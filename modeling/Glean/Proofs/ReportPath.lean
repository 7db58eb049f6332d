import Glean.Proofs.Lines
import Glean.Proofs.PathOrder
import Glean.Settings
import Mathlib.Data.List.DropRight

set_option autoImplicit false

/-!
# Where a report goes

The extension of a path is looked for in the path's last component, but the one that a comma
separated report must have is added behind the path's text. Both speak of the same name where
something stands behind the last slash.
-/
namespace Glean

namespace Path

/-- What stands behind the last slash of a path, all of it where there is none. -/
def behindSlash (path : List Char) : List Char := path.rtakeWhile (· ≠ '/')

theorem behindSlash_append (path more : List Char) (h : '/' ∉ more) :
    behindSlash (path ++ more) = behindSlash path ++ more := by
  rw [behindSlash, List.rtakeWhile, List.reverse_append, takeWhile_reverse_append more _ '/' h,
    List.reverse_append, List.reverse_reverse]
  rfl

theorem behindSlash_of_not_mem (name : List Char) (h : '/' ∉ name) : behindSlash name = name :=
  behindSlash_append [] name h

theorem behindSlash_slash (folder name : List Char) (h : '/' ∉ name) :
    behindSlash (folder ++ '/' :: name) = name := by
  have hslash : behindSlash (folder ++ ['/']) = [] := List.rtakeWhile_concat_neg _ _ _ (by simp)
  rw [List.append_cons, behindSlash_append _ name h, hslash, List.nil_append]

/-- What stands behind the last slash is the last piece of a path. -/
theorem exists_pieces_eq (path : List Char) :
    ∃ front, pieces path = front ++ [behindSlash path] := by
  by_cases hmem : '/' ∈ path
  · obtain ⟨folder, name, rfl, hname⟩ := exists_last_cut path '/' hmem
    refine ⟨pieces folder, ?_⟩
    rw [behindSlash_slash _ _ hname, pieces_append_slash, pieces_of_not_mem _ hname]
  · exact ⟨[], by rw [behindSlash_of_not_mem path hmem, pieces_of_not_mem path hmem]; rfl⟩

theorem fileName?_of_behindSlash (path n : String)
    (h : component? (behindSlash path.toList) = some (.name n)) : fileName? path = some n := by
  obtain ⟨front, hpieces⟩ := exists_pieces_eq path.toList
  rw [fileName?, components_eq, hpieces]
  by_cases hne : front = []
  · subst hne
    rw [List.nil_append, componentsOf_singleton _ (.name n) h]
    rfl
  · rw [componentsOf_concat front _ hne, h, Option.toList_some, List.getLast?_concat]

/-- What follows the last dot of a name is its extension, unless that dot begins the name. -/
theorem extensionOf?_append (stem ext : List Char) (h : '.' ∉ ext) :
    extensionOf? (stem ++ '.' :: ext) = if stem = [] then none else some ext := by
  have hreverse : (stem ++ '.' :: ext).reverse = ext.reverse ++ '.' :: stem.reverse := by simp
  have hafter : (stem ++ '.' :: ext).reverse.takeWhile (· ≠ '.') = ext.reverse := by
    rw [hreverse, takeWhile_reverse_append ext _ '.' h, List.takeWhile_cons_of_neg (by simp),
      List.append_nil]
  have hbefore : (stem ++ '.' :: ext).reverse.drop (ext.reverse.length + 1) = stem.reverse := by
    rw [hreverse, List.drop_append, List.drop_of_length_le (Nat.le_succ _), List.nil_append,
      Nat.add_sub_cancel_left]
    rfl
  have hlength : ext.reverse.length < (stem ++ '.' :: ext).length := by
    simp only [List.length_reverse, List.length_append, List.length_cons]
    omega
  unfold extensionOf?
  dsimp only
  rw [hafter, hbefore, List.reverse_reverse]
  by_cases hstem : stem = []
  · rw [if_pos hstem, if_neg (by simp [hstem])]
  · rw [if_neg hstem, if_pos ⟨hlength, by simpa using hstem⟩]

theorem component?_of_mem (piece : List Char) (c : Char) (hmem : c ∈ piece) (hc : c ≠ '.') :
    component? piece = some (.name (String.ofList piece)) := by
  unfold component?
  split
  · contradiction
  · exact absurd (List.mem_singleton.mp hmem) hc
  · exact absurd (by simpa using hmem) hc
  · rfl

/-- A text with a dot and an extension behind it has that extension, unless nothing but a slash
stands in front of the dot. -/
theorem extension?_of_toList (path : String) (front ext : List Char)
    (hpath : path.toList = front ++ '.' :: ext) (hslash : '/' ∉ ext) (hdot : '.' ∉ ext)
    (hne : ext ≠ []) :
    extension? path = if behindSlash front = [] then none else some (String.ofList ext) := by
  have hname : behindSlash path.toList = behindSlash front ++ '.' :: ext := by
    rw [hpath]
    exact behindSlash_append front _ (by simpa using hslash)
  obtain ⟨c, rest, rfl⟩ := List.exists_cons_of_ne_nil hne
  have hc : c ≠ '.' := fun he => hdot (he ▸ List.mem_cons_self)
  have hfile := fileName?_of_behindSlash path _ (component?_of_mem _ c (by simp [hname]) hc)
  rw [extension?, hfile, hname, Option.bind_some, String.toList_ofList,
    extensionOf?_append _ _ hdot]
  split <;> rfl

end Path

namespace Settings

/-- What is expected of the place of a comma separated report: the text of the output, with the
extension behind it if need be, has the extension; it is added to no text that ends in it, and not
twice. -/
structure PlacesCsv (s : Settings) : Prop where
  text : s.reportPath = s.output ∨ s.reportPath = s.output ++ ".csv"
  extension : Path.extension? s.reportPath = some "csv"
  kept : ".csv".toList <:+ s.output.toList → s.reportPath = s.output
  once : ({ s with output := s.reportPath } : Settings).reportPath = s.reportPath

section

variable (s : Settings) (h : s.format = .csv)

include h

theorem reportPath_of_extension (he : Path.extension? s.output = some "csv") :
    s.reportPath = s.output := by
  rw [reportPath, h]
  exact if_pos he

theorem reportPath_of_no_extension (he : Path.extension? s.output ≠ some "csv") :
    s.reportPath = s.output ++ ".csv" := by
  rw [reportPath, h]
  exact if_neg he

theorem reportPath_eq_output_iff :
    s.reportPath = s.output ↔ Path.extension? s.output = some "csv" := by
  refine ⟨?_, reportPath_of_extension s h⟩
  intro hpath
  by_contra he
  rw [reportPath_of_no_extension s h he] at hpath
  have hlength := congrArg String.length hpath
  rw [String.length_append] at hlength
  have hcsv : ".csv".length = 4 := by decide
  omega

end

theorem extension?_append_csv (path : String) :
    Path.extension? (path ++ ".csv") =
      if Path.behindSlash path.toList = [] then none else some "csv" :=
  Path.extension?_of_toList _ path.toList ['c', 's', 'v'] String.toList_append
    (by decide) (by decide) (by decide)

/-- A text that ends in the extension has it, unless it names a file that is nothing else. -/
theorem extension?_eq_csv_iff (path : String) (h : ".csv".toList <:+ path.toList) :
    Path.extension? path = some "csv" ↔ Path.behindSlash path.toList ≠ ".csv".toList := by
  obtain ⟨front, hfront⟩ := h
  have hextension := Path.extension?_of_toList path front ['c', 's', 'v'] hfront.symm (by decide)
    (by decide) (by decide)
  rw [hextension, ← hfront, Path.behindSlash_append front _ (by decide)]
  by_cases hname : Path.behindSlash front = []
  · rw [if_pos hname, hname]
    exact ⟨fun h => by contradiction, fun h => absurd rfl h⟩
  · rw [if_neg hname]
    exact ⟨fun _ h => hname (List.append_left_eq_self.mp h), fun _ => rfl⟩

section

variable (s : Settings) (h : s.format = .csv)

include h

theorem extension?_reportPath_iff :
    Path.extension? s.reportPath = some "csv" ↔
      Path.extension? s.output = some "csv" ∨ Path.behindSlash s.output.toList ≠ [] := by
  by_cases he : Path.extension? s.output = some "csv"
  · rw [reportPath_of_extension s h he]
    exact ⟨.inl, fun _ => he⟩
  · rw [reportPath_of_no_extension s h he, extension?_append_csv]
    by_cases hname : Path.behindSlash s.output.toList = []
    · rw [if_pos hname]
      exact ⟨fun h => by contradiction, fun h => absurd hname (h.resolve_left he)⟩
    · rw [if_neg hname]
      exact ⟨fun _ => .inr hname, fun _ => rfl⟩

theorem reportPath_text : s.reportPath = s.output ∨ s.reportPath = s.output ++ ".csv" := by
  by_cases he : Path.extension? s.output = some "csv"
  · exact .inl (reportPath_of_extension s h he)
  · exact .inr (reportPath_of_no_extension s h he)

theorem kept_iff (hends : ".csv".toList <:+ s.output.toList) :
    s.reportPath = s.output ↔ Path.behindSlash s.output.toList ≠ ".csv".toList :=
  (reportPath_eq_output_iff s h).trans (extension?_eq_csv_iff s.output hends)

theorem once_iff :
    ({ s with output := s.reportPath } : Settings).reportPath = s.reportPath ↔
      Path.extension? s.reportPath = some "csv" :=
  reportPath_eq_output_iff { s with output := s.reportPath } h

end

/-- A report is placed as expected exactly if the output has the extension, or something stands
behind its last slash that is not the extension alone. Behind a slash the extension would be the
whole name, so there is none, however often it is added; a name that is the extension alone gets it
once more. -/
theorem placesCsv_iff (s : Settings) (h : s.format = .csv) :
    (s.reportPath = s.output ∨ s.reportPath = s.output ++ ".csv") ∧
      (Path.extension? s.reportPath = some "csv" ↔
        Path.extension? s.output = some "csv" ∨ Path.behindSlash s.output.toList ≠ []) ∧
      (".csv".toList <:+ s.output.toList →
        (s.reportPath = s.output ↔ Path.behindSlash s.output.toList ≠ ".csv".toList)) ∧
      (({ s with output := s.reportPath } : Settings).reportPath = s.reportPath ↔
        Path.extension? s.reportPath = some "csv") ∧
      (s.PlacesCsv ↔ Path.extension? s.output = some "csv" ∨
        Path.behindSlash s.output.toList ≠ [] ∧
          Path.behindSlash s.output.toList ≠ ".csv".toList) := by
  have hextension := extension?_reportPath_iff s h
  refine ⟨reportPath_text s h, hextension, kept_iff s h, once_iff s h, ?_⟩
  constructor
  · intro hplaces
    rcases hextension.mp hplaces.extension with he | hname
    · exact .inl he
    · by_cases hends : ".csv".toList <:+ s.output.toList
      · exact .inl ((reportPath_eq_output_iff s h).mp (hplaces.kept hends))
      · refine .inr ⟨hname, ?_⟩
        intro hcsv
        exact hends (hcsv ▸ List.rtakeWhile_suffix _ _)
  · intro hcases
    have he : Path.extension? s.reportPath = some "csv" :=
      hextension.mpr (hcases.imp_right And.left)
    refine ⟨reportPath_text s h, he, ?_, (once_iff s h).mpr he⟩
    intro hends
    rcases hcases with he | ⟨-, hname⟩
    · exact reportPath_of_extension s h he
    · exact (kept_iff s h hends).mpr hname

/-- A name that is the extension alone, and a folder. -/
theorem not_placesCsv :
    let hidden : Settings := { default with output := ".csv" }
    let folder : Settings := { default with output := "reports/" }
    hidden.reportPath = ".csv.csv" ∧ ¬hidden.PlacesCsv ∧
      folder.reportPath = "reports/.csv" ∧ Path.extension? folder.reportPath = none ∧
      ({ folder with output := folder.reportPath } : Settings).reportPath = "reports/.csv.csv" ∧
      ¬folder.PlacesCsv := by
  intro hidden folder
  have hkept : hidden.reportPath = ".csv.csv" := by decide +kernel
  have hnone : Path.extension? folder.reportPath = none := by decide +kernel
  refine ⟨hkept, ?_, by decide +kernel, hnone, by decide +kernel, ?_⟩
  · intro hplaces
    have hsame := hplaces.kept List.suffix_rfl
    rw [hkept] at hsame
    exact absurd hsame (by decide)
  · intro hplaces
    have hextension := hplaces.extension
    rw [hnone] at hextension
    contradiction

/-- A hidden file without extension in a folder that has it, and a folder that has it itself. -/
theorem placesCsv_of_outputs :
    let hidden : Settings := { default with output := "out.csv/.zh" }
    let folder : Settings := { default with output := "a/报告.csv/" }
    hidden.reportPath = "out.csv/.zh.csv" ∧ hidden.PlacesCsv ∧
      folder.reportPath = "a/报告.csv/" ∧ folder.PlacesCsv := by
  intro hidden folder
  obtain ⟨-, -, -, -, hhidden⟩ := placesCsv_iff hidden rfl
  obtain ⟨-, -, -, -, hfolder⟩ := placesCsv_iff folder rfl
  refine ⟨by decide +kernel, hhidden.mpr (.inr ?_), by decide +kernel, hfolder.mpr (.inl ?_)⟩
  · decide +kernel
  · decide +kernel

end Settings

end Glean
