import Glean.Proofs.EmbeddedScripts
import Glean.Proofs.PageScripts
import Glean.Search

set_option autoImplicit false

/-!
# What the counts of a run add up to

A file is left alone, cannot be read, or is read as a script or as a page. Every file that is not
left alone is counted once, as a success or as a failure. A script that fails by itself is counted
with its file, and one inside a page without it.
-/
namespace Glean

/-- A script that is not well-formed once its import calls are replaced. -/
def Script.isBroken (l : Language) (code : List Char) : Bool :=
  (l.literals? (ImportCall.neutralize code)).isNone

theorem Script.isSome_records? (r : Range) (l : Language) (file : String) (before : Nat)
    (code : List Char) : (records? r l file before code).isSome = !isBroken l code := by
  rw [records?_eq, Option.isSome_map, isBroken, Option.not_isNone]

namespace Markup

def Embedded.isBroken (e : Embedded) : Bool := Script.isBroken e.language e.content

/-- The scripts of a page that are not blank. -/
def filledScripts (text : List Char) : List Embedded :=
  (scriptsOf (document text)).filter (!·.isBlank)

def brokenScripts (text : List Char) : Nat := (filledScripts text).countP Embedded.isBroken

theorem scriptFailures_finds (r : Range) (file : String) (text : List Char) :
    (finds r file text).scriptFailures = brokenScripts text := by
  have hfinds : finds r file text = gathered r file text (fragmentsOf (document text)) := rfl
  rw [hfinds, scriptFailures_gathered, readIn, ← scriptsOf_eq, brokenScripts, filledScripts]
  apply List.countP_congr
  intro e _
  rw [Embedded.read, Script.isOk_read, Script.isSome_records?, Bool.not_not, Embedded.isBroken]

end Markup

/-- What a search meets at a path. -/
inductive Meeting
  | passed
  | unreadable
  | script (l : Language) (code : List Char)
  | page (text : List Char)
  deriving DecidableEq

namespace Meeting

def isAccepted : Meeting → Bool
  | passed => false
  | _ => true

def isUnreadable : Meeting → Bool
  | unreadable => true
  | _ => false

def isBroken : Meeting → Bool
  | script l code => Script.isBroken l code
  | _ => false

/-- The scripts inside, which fail without their file. -/
def inside : Meeting → List Markup.Embedded
  | page text => Markup.filledScripts text
  | _ => []

/-- What can become of what is met. -/
inductive Ends : Meeting → Outcome → Prop
  | passed : Ends passed .skipped
  | unreadable : Ends unreadable (.failed 0)
  | broken (l : Language) (code : List Char) (h : Script.isBroken l code = true) :
      Ends (script l code) (.failed 1)
  | read (l : Language) (code : List Char) (h : Script.isBroken l code = false)
      (records : List Record) : Ends (script l code) (.extracted records 0)
  | page (text : List Char) (records : List Record) :
      Ends (page text) (.extracted records (Markup.brokenScripts text))

/-- What one file adds to the counts. -/
theorem Ends.counts {m : Meeting} {o : Outcome} (h : m.Ends o) (tally : Tally) :
    (tally.add o).succeeded + (tally.add o).failed =
        tally.succeeded + tally.failed + (if m.isAccepted then 1 else 0) ∧
      (tally.add o).failed =
        tally.failed + (if m.isUnreadable then 1 else 0) + (if m.isBroken then 1 else 0) ∧
      (tally.add o).scriptsFailed =
        tally.scriptsFailed + (if m.isBroken then 1 else 0) +
          m.inside.countP Markup.Embedded.isBroken := by
  cases h with
  | passed => exact ⟨rfl, rfl, rfl⟩
  | unreadable => exact ⟨rfl, rfl, rfl⟩
  | broken l code hb =>
    rw [isBroken, if_pos hb]
    exact ⟨rfl, rfl, rfl⟩
  | read l code hb records =>
    rw [isBroken, if_neg (Bool.eq_false_iff.mp hb)]
    exact ⟨Nat.add_right_comm _ _ _, rfl, rfl⟩
  | page text records => exact ⟨Nat.add_right_comm _ _ _, rfl, rfl⟩

/-- A file fails only if it cannot be read, or as a script. -/
theorem Ends.failed_iff {m : Meeting} {o : Outcome} (h : m.Ends o) (n : Nat) :
    o = .failed n ↔ m.isUnreadable = true ∧ n = 0 ∨
      (∃ l code, m = .script l code ∧ Script.isBroken l code = true) ∧ n = 1 := by
  cases h with
  | passed => simp [isUnreadable]
  | unreadable =>
    constructor
    · rintro ⟨⟩
      exact .inl ⟨rfl, rfl⟩
    · rintro (⟨-, rfl⟩ | ⟨⟨l, code, hm, -⟩, -⟩)
      · rfl
      · contradiction
  | broken l code hb =>
    constructor
    · rintro ⟨⟩
      exact .inr ⟨⟨l, code, rfl, hb⟩, rfl⟩
    · rintro (⟨hm, -⟩ | ⟨-, rfl⟩)
      · contradiction
      · rfl
  | read l code hb records => simp [isUnreadable, hb]
  | page text records => simp [isUnreadable]

end Meeting

namespace Search

variable (s : Search) (t : FileTree)

/-- What is at a path for a search. Data is a script with something in front. -/
def meets (path : String) : Meeting :=
  match s.extension? path with
  | none => .passed
  | some extension =>
    match t.read? path with
    | none => .unreadable
    | some bytes =>
      let text := dropMark (Text.decode bytes)
      let language := (Language.ofExtension? extension).getD .javascript
      match language.family with
      | .script => .script language text
      | .data => .script language (dataLead ++ text)
      | .markup => .page text

theorem isAccepted_meets (path : String) :
    (s.meets t path).isAccepted = (s.extension? path).isSome := by
  unfold meets
  cases s.extension? path with
  | none => rfl
  | some extension =>
    cases t.read? path with
    | none => rfl
    | some bytes =>
      dsimp only
      split <;> rfl

theorem isUnreadable_meets (path : String) :
    (s.meets t path).isUnreadable = ((s.extension? path).isSome && (t.read? path).isNone) := by
  unfold meets
  cases s.extension? path with
  | none => rfl
  | some extension =>
    cases t.read? path with
    | none => rfl
    | some bytes =>
      dsimp only
      split <;> rfl

theorem ends_readScript (file : String) (l : Language) (code : List Char) :
    Meeting.Ends (.script l code) (s.readScript file l code) := by
  have hsome := Script.isSome_records? s.range l file 0 code
  unfold readScript
  cases hrecords : Script.records? s.range l file 0 code with
  | none =>
    rw [hrecords] at hsome
    exact .broken l code (by simpa using hsome)
  | some records =>
    rw [hrecords] at hsome
    exact .read l code (by simpa using hsome) records

theorem ends_visit (path : String) : (s.meets t path).Ends (s.visit t path) := by
  unfold meets visit
  cases s.extension? path with
  | none => exact .passed
  | some extension =>
    cases t.read? path with
    | none => exact .unreadable
    | some bytes =>
      dsimp only [outcome]
      cases ((Language.ofExtension? extension).getD .javascript).family with
      | script => exact s.ends_readScript path _ _
      | data => exact s.ends_readScript path _ _
      | markup =>
        rw [Markup.scriptFailures_finds]
        exact .page _ _

/-- How many files that are accepted cannot be read. -/
def unreadable (paths : List String) : Nat :=
  paths.countP fun path => (s.extension? path).isSome && (t.read? path).isNone

/-- How many files are scripts, or data, that are not well-formed. -/
def broken (paths : List String) : Nat := paths.countP fun path => (s.meets t path).isBroken

/-- How many scripts inside the pages that are read are not well-formed. -/
def brokenInside (paths : List String) : Nat :=
  (paths.flatMap fun path => (s.meets t path).inside).countP Markup.Embedded.isBroken

/-- What the counts of a run add up to once it has gone through some files. -/
structure Accounts (paths : List String) (tally : Tally) : Prop where
  processed : tally.succeeded + tally.failed =
    paths.countP fun path => (s.extension? path).isSome
  failed : tally.failed = s.unreadable t paths + s.broken t paths
  scripts : tally.scriptsFailed = s.broken t paths + s.brokenInside t paths

theorem accounts_empty : s.Accounts t [] {} := ⟨rfl, rfl, rfl⟩

theorem Accounts.add {paths : List String} {tally : Tally} (h : s.Accounts t paths tally)
    (path : String) : s.Accounts t (paths ++ [path]) (tally.add (s.visit t path)) := by
  obtain ⟨hprocessed, hfailed, hscripts⟩ := (s.ends_visit t path).counts tally
  have hp := h.processed
  have hf := h.failed
  have hs := h.scripts
  constructor
  · rw [hprocessed, List.countP_append, List.countP_singleton, hp, isAccepted_meets]
  · rw [hfailed, hf, isUnreadable_meets, unreadable, unreadable, broken, broken,
      List.countP_append, List.countP_append, List.countP_singleton, List.countP_singleton]
    omega
  · rw [hscripts, hs, broken, broken, brokenInside, brokenInside, List.countP_append,
      List.countP_singleton, List.flatMap_append, List.countP_append, List.flatMap_singleton]
    omega

theorem Accounts.foldl {before : List String} {tally : Tally} (h : s.Accounts t before tally)
    (paths : List String) :
    s.Accounts t (before ++ paths) ((paths.map (s.visit t)).foldl Tally.add tally) := by
  -- The equations are carried along the files still to come, whatever came before them.
  induction paths generalizing before tally with
  | nil => rwa [List.append_nil]
  | cons path paths ih =>
    rw [← List.singleton_append, ← List.append_assoc]
    exact ih (h.add s t path)

theorem unreadable_iff (path : String) :
    (s.meets t path).isUnreadable = true ↔
      (s.extension? path).isSome = true ∧ t.read? path = none := by
  rw [isUnreadable_meets, Bool.and_eq_true, Option.isNone_iff_eq_none]

/-- After any number of its files, the files that a run counts are those that are accepted, the
failed ones are those that cannot be read and the broken scripts, and the scripts that failed are
the failed files less the unreadable ones and the broken scripts inside pages. A page that is read
never fails, and a file that fails adds no record, and a script only if it is one. -/
theorem visitAll_accounts (paths : List String) :
    s.visitAll t paths = (paths.map (s.visit t)).foldl Tally.add {} ∧
    (∀ n, let tally := ((paths.map (s.visit t)).take n).foldl Tally.add {}
      s.Accounts t (paths.take n) tally ∧
        tally.scriptsFailed = tally.failed - s.unreadable t (paths.take n) +
          s.brokenInside t (paths.take n)) ∧
    (∀ path text, s.meets t path = .page text →
      ∃ records, s.visit t path = .extracted records (Markup.brokenScripts text)) ∧
    (∀ path n, s.visit t path = .failed n ↔
      ((s.extension? path).isSome = true ∧ t.read? path = none) ∧ n = 0 ∨
        (∃ l code, s.meets t path = .script l code ∧ Script.isBroken l code = true) ∧ n = 1) ∧
    ∀ path n, s.visit t path = .failed n → ∀ tally : Tally, tally.add (s.visit t path) =
      { tally with failed := tally.failed + 1, scriptsFailed := tally.scriptsFailed + n } := by
  refine ⟨rfl, ?_, ?_, ?_, ?_⟩
  · intro n tally
    have haccounts : s.Accounts t (paths.take n) tally := by
      have hfold := (s.accounts_empty t).foldl s t (paths.take n)
      rw [List.map_take] at hfold
      exact hfold
    refine ⟨haccounts, ?_⟩
    rw [haccounts.scripts, haccounts.failed, Nat.add_sub_cancel_left]
  · intro path text hpage
    have hends := s.ends_visit t path
    rw [hpage] at hends
    generalize s.visit t path = o at hends
    cases hends with
    | page _ records => exact ⟨records, rfl⟩
  · intro path n
    rw [(s.ends_visit t path).failed_iff, unreadable_iff]
  · intro path n hfailed tally
    rw [hfailed]
    rfl

/-- A page with a script that is blank and one that is broken, broken data, a script that is
missing, and a file that is left alone. -/
theorem visitAll_accounts_mixed_files :
    let range : Range := ⟨Range.default, .set (.range '\u4e00' '\u9fff')⟩
    let s : Search := ⟨range, none, ["html", "json", "js"]⟩
    let page := "<script> </script><script>(</script>"
    let t : FileTree :=
      { root := .folder [("a.html", .file page.toUTF8.toList), ("b.json", .file [0x7B]),
          ("d.css", .file [])] }
    let paths := ["d.css", "c.js", "a.html", "b.json"]
    let tally := ((paths.map (s.visit t)).take 3).foldl Tally.add {}
    s.Accounts t (paths.take 3) tally ∧ tally.succeeded + tally.failed = 2 ∧ tally.failed = 1 ∧
      tally.scriptsFailed = 1 - 1 + 1 ∧
      (∃ records, s.visit t "a.html" = .extracted records 1) ∧ s.visit t "b.json" = .failed 1 ∧
      s.visitAll t paths = { tally with failed := tally.failed + 1, scriptsFailed := 1 + 1 } := by
  intro range s page t paths tally
  obtain ⟨-, counts, pages, failures, adds⟩ := visitAll_accounts s t paths
  obtain ⟨haccounts, hscripts⟩ := counts 3
  have hunreadable : s.unreadable t (paths.take 3) = 1 := by decide +kernel
  have hnone : s.broken t (paths.take 3) = 0 := by decide +kernel
  have hpage : s.meets t "a.html" = .page page.toList := by decide +kernel
  have hinner : Markup.brokenScripts page.toList = 1 := by decide +kernel
  have hinside : s.brokenInside t (paths.take 3) = 1 := by decide +kernel
  have hfailed : tally.failed = 1 := by rw [haccounts.failed, hunreadable, hnone]
  rw [hinside, hunreadable, hfailed] at hscripts
  have hbroken : s.visit t "b.json" = .failed 1 :=
    (failures "b.json" 1).mpr
      (.inr ⟨⟨.json, "var a = \x7b".toList, by decide +kernel, by decide +kernel⟩, rfl⟩)
  have hprocessed := haccounts.processed.trans
    (by decide +kernel : (paths.take 3).countP (fun path => (s.extension? path).isSome) = 2)
  refine ⟨haccounts, hprocessed, hfailed, hscripts, ?_, hbroken, ?_⟩
  · obtain ⟨records, hrecords⟩ := pages "a.html" page.toList hpage
    rw [hinner] at hrecords
    exact ⟨records, hrecords⟩
  · have hall : s.visitAll t paths = tally.add (s.visit t "b.json") := rfl
    rw [hall, adds "b.json" 1 hbroken tally, hscripts]

end Search

end Glean
