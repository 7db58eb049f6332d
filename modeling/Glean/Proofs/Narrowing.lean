import Glean.Proofs.Hosts
import Glean.Proofs.ImportVisibility
import Glean.Proofs.Occurrence
import Glean.Proofs.PageWalk

set_option autoImplicit false

/-!
# Narrowing a range

A range only selects records: a search gives what the search for every text gives, less the records
that are not in range. So what is in the narrower of two ranges is found in the same way with both.
-/
namespace Glean

def Record.isIn (r : Range) (x : Record) : Bool := r.test x.text

/-- An outcome with some of its records. -/
def Outcome.restrict (p : Record → Bool) : Outcome → Outcome
  | skipped => skipped
  | extracted records n => extracted (records.filter p) n
  | failed n => failed n

theorem Outcome.restrict_restrict (p q : Record → Bool) (h : ∀ x, p x = true → q x = true)
    (o : Outcome) : (o.restrict q).restrict p = o.restrict p := by
  have hboth : (fun x => p x && q x) = p := by
    funext x
    cases hp : p x with
    | false => rfl
    | true => rw [h x hp, Bool.and_self]
  cases o with
  | skipped => rfl
  | extracted records n => simp only [restrict, List.filter_filter, hboth]
  | failed n => rfl

theorem Script.recordsOf_restrict (r : Range) (file : String) (before : Nat) (text : List Char)
    (tokens : List Literal) :
    recordsOf r file before text tokens =
      (recordsOf Range.all file before text tokens).filter (·.isIn r) := by
  have hall : tokens.filter (fun t => Range.all.test (String.ofList t.body)) = tokens := by
    simp [Range.test_all]
  rw [recordsOf, recordsOf, hall, List.filter_map]
  rfl

theorem Script.records?_restrict (r : Range) (l : Language) (file : String) (before : Nat)
    (code : List Char) :
    records? r l file before code =
      (records? Range.all l file before code).map (·.filter (·.isIn r)) := by
  rw [records?_eq, records?_eq, Option.map_map]
  congr
  funext tokens
  exact recordsOf_restrict r file before _ tokens

namespace Markup

def Finds.restrict (p : Record → Bool) (found : Finds) : Finds :=
  ⟨found.records.filter p, found.scriptFailures⟩

theorem Finds.restrict_empty (p : Record → Bool) : Finds.restrict p {} = {} := rfl

variable (r : Range) (file : String)

theorem find_restrict (line : Nat) (text : List Char) :
    find r file line text = (find Range.all file line text).restrict (·.isIn r) := by
  unfold find
  dsimp only
  rw [if_pos (Range.test_all _)]
  by_cases h : r.test (String.ofList text) = true
  · simp [Finds.restrict, Record.isIn, h]
  · simp [Finds.restrict, Record.isIn, h]

theorem Fragment.finds_restrict (index : Lines.Index) (f : Fragment) :
    f.finds r file index = (f.finds Range.all file index).restrict (·.isIn r) := by
  cases f with
  | value v =>
    simp only [finds]
    split
    · rw [Finds.restrict_empty]
    · exact find_restrict r file _ _
  | text start content =>
    simp only [finds]
    split
    · rw [Finds.restrict_empty]
    · exact find_restrict r file _ _
  | script start language content =>
    simp only [finds]
    split
    · rw [Finds.restrict_empty]
    · rw [Script.records?_restrict]
      cases Script.records? Range.all language file (index.lineAt start - 1) content with
      | none => rfl
      | some records => rfl

theorem gather_restrict (p : Record → Bool) (parts : List Finds) :
    gather (parts.map (·.restrict p)) = (gather parts).restrict p := by
  induction parts with
  | nil => rfl
  | cons first parts ih =>
    rw [List.map_cons, gather_cons, gather_cons, ih]
    simp only [Finds.add, Finds.restrict, List.filter_append]

theorem finds_restrict (text : List Char) :
    finds r file text = (finds Range.all file text).restrict (·.isIn r) := by
  have hfragments (fragments : List Fragment) (index : Lines.Index) :
      fragments.map (·.finds r file index) =
        (fragments.map (·.finds Range.all file index)).map (·.restrict (·.isIn r)) := by
    rw [List.map_map]
    congr
    funext f
    exact f.finds_restrict r file index
  change gather _ = (gather _).restrict _
  rw [hfragments, gather_restrict]

end Markup

namespace Search

/-- The search in the same files for every text. -/
def everything (s : Search) : Search := { s with range := .all }

variable (s : Search) (file : String)

theorem readScript_restrict (l : Language) (code : List Char) :
    s.readScript file l code = (s.everything.readScript file l code).restrict (·.isIn s.range) := by
  have hall : s.everything.range = Range.all := rfl
  rw [readScript, readScript, Script.records?_restrict, hall]
  cases Script.records? Range.all l file 0 code with
  | none => rfl
  | some records => rfl

theorem outcome_restrict (extension : String) (text : List Char) :
    s.outcome file extension text =
      (s.everything.outcome file extension text).restrict (·.isIn s.range) := by
  simp only [outcome]
  split
  · exact s.readScript_restrict file _ _
  · exact s.readScript_restrict file _ _
  · rw [Markup.finds_restrict]
    rfl

theorem visitText_restrict (text : List Char) :
    s.visitText file text = (s.everything.visitText file text).restrict (·.isIn s.range) := by
  have hextension : s.everything.extension? file = s.extension? file := rfl
  rw [visitText, visitText, hextension]
  cases s.extension? file with
  | none => rfl
  | some extension => exact s.outcome_restrict file extension text

theorem everything_eq_of_ofSettings (host : Host) (settings : Settings) (narrow wide : String)
    (s t : Search) (hs : ofSettings host { settings with range := narrow } = .ok s)
    (ht : ofSettings host { settings with range := wide } = .ok t) :
    s.everything = t.everything := by
  obtain ⟨-, hexclusion, hsuffixes⟩ := ofSettings_eq_ok host _ s hs
  obtain ⟨-, hexclusion', hsuffixes'⟩ := ofSettings_eq_ok host _ t ht
  have hsame : s.exclusion = t.exclusion := by
    simpa only [hexclusion', Except.ok.injEq, eq_comm] using hexclusion
  simp only [everything, hsame, hsuffixes, hsuffixes']

end Search

/-- Of two searches that differ in their ranges alone, where all in the range of the first is
in that of the second, the first gives what the second gives less the records that are not in its
range: the same kind of outcome, as many scripts that failed, and the other records as they were. -/
theorem visitText_of_narrower (host : Host) (settings : Settings) (narrow wide : String)
    (s t : Search) (hs : Search.ofSettings host { settings with range := narrow } = .ok s)
    (ht : Search.ofSettings host { settings with range := wide } = .ok t)
    (h : ∀ text, s.range.test text = true → t.range.test text = true)
    (file : String) (text : List Char) :
    s.visitText file text = (t.visitText file text).restrict fun x => s.range.test x.text := by
  rw [s.visitText_restrict, t.visitText_restrict,
    Search.everything_eq_of_ofSettings host settings narrow wide s t hs ht]
  have hin : ∀ x : Record, x.isIn s.range = true → x.isIn t.range = true := by
    intro x hx
    exact h x.text hx
  exact (Outcome.restrict_restrict _ _ hin _).symm

/-- A character alone and the ideographs around it, on a page with a script that can be read and one
that cannot. -/
theorem visitText_of_narrower_page :
    let page := "<p title='文'>中 <script>['一', '中\"']</script><script>(</script>".toList
    ∃ s t, Search.ofSettings .ample { Settings.default with range := "中" } = .ok s ∧
      Search.ofSettings .ample { Settings.default with range := Range.default } = .ok t ∧
      (∀ text, s.range.test text = true → t.range.test text = true) ∧
      s.visitText "a.html" page =
        (Outcome.extracted [⟨"a.html", 1, .markup, "文"⟩, ⟨"a.html", 1, .markup, "中"⟩,
          ⟨"a.html", 1, .script, "一"⟩, ⟨"a.html", 1, .script, "中\""⟩] 1).restrict
          fun x => s.range.test x.text := by
  intro page
  let s : Search := ⟨⟨"中", .set (.one '中')⟩, none, Settings.defaultSuffixes⟩
  let t : Search := ⟨⟨Range.default, .set (.range '\u4e00' '\u9fff')⟩, none,
    Settings.defaultSuffixes⟩
  have hin : ∀ text, s.range.test text = true → t.range.test text = true := by
    intro text h
    rw [Range.test, Pattern.occursIn_set, List.any_eq_true] at h ⊢
    obtain ⟨c, hc, hone⟩ := h
    obtain rfl : c = '中' := of_decide_eq_true hone
    exact ⟨'中', hc, by decide⟩
  have hwide : t.visitText "a.html" page = .extracted [⟨"a.html", 1, .markup, "文"⟩,
      ⟨"a.html", 1, .markup, "中"⟩, ⟨"a.html", 1, .script, "一"⟩,
      ⟨"a.html", 1, .script, "中\""⟩] 1 := by decide +kernel
  refine ⟨s, t, rfl, rfl, hin, ?_⟩
  rw [← hwide]
  exact visitText_of_narrower .ample Settings.default "中" Range.default s t rfl rfl hin "a.html"
    page

end Glean
