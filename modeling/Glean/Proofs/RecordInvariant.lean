import Glean.Proofs.Occurrence
import Glean.Proofs.PageScripts
import Glean.Proofs.Trimming
import Glean.Search

set_option autoImplicit false

/-!
# What holds of every record

Every record is in range and on a line. Runs of text are shown without the white space around them,
but the value of an attribute and a literal are taken as they are, so one of nothing but white space
is recorded where the range has white space in it.
-/
namespace Glean

namespace Text

/-- The code points of white space. -/
def blankCodes : List Nat :=
  List.range' 0x09 5 ++ [0x20, 0x85, 0xA0, 0x1680] ++ List.range' 0x2000 11 ++
    [0x2028, 0x2029, 0x202F, 0x205F, 0x3000]

def blanks : List Char := blankCodes.map Char.ofNat

theorem mem_blanks (c : Char) (h : isBlank c = true) : c ∈ blanks := by
  have hcode : c.toNat ∈ blankCodes := by
    simp only [isBlank, Bool.or_eq_true, Bool.and_eq_true, decide_eq_true_eq, beq_iff_eq] at h
    simp only [blankCodes, List.mem_append, List.mem_range'_1, List.mem_cons, List.not_mem_nil,
      or_false]
    omega
  exact List.mem_map.mpr ⟨c.toNat, hcode, Char.ofNat_toNat c⟩

theorem allBlank_blanks : AllBlank blanks := by
  have hall : blanks.all isBlank = true := by decide
  exact List.all_eq_true.mp hall

end Text

theorem Script.of_mem_records? (r : Range) (l : Language) (file : String) (before : Nat)
    (code : List Char) (records : List Record)
    (h : records? r l file before code = some records) (x : Record) (hx : x ∈ records) :
    1 ≤ x.line ∧ r.test x.text = true ∧ x.source = .script ∧ x.file = file := by
  rw [records?_eq] at h
  obtain ⟨tokens, -, rfl⟩ := Option.map_eq_some_iff.mp h
  obtain ⟨t, -, htest, rfl⟩ := (mem_recordsOf r file before _ tokens x).mp hx
  exact ⟨Nat.le_add_right_of_le (Nat.succ_pos _), htest, rfl, rfl⟩

namespace Markup

variable (r : Range) (file : String)

/-- What a fragment has in a record of its. -/
def Fragment.Shows (x : Record) : Fragment → Prop
  | .value v => v.content ≠ [] ∧ x.text = String.ofList v.content
  | .text _ content => Text.trim content ≠ [] ∧ x.text = String.ofList (Text.trim content)
  | .script _ _ _ => x.source = .script

theorem of_mem_find (line : Nat) (text : List Char) (x : Record)
    (hx : x ∈ (find r file line text).records) :
    x.line = line ∧ r.test x.text = true ∧ x.text = String.ofList text ∧ x.file = file := by
  unfold find at hx
  dsimp only at hx
  split at hx
  · rename_i h
    obtain rfl := List.mem_singleton.mp hx
    exact ⟨rfl, h, rfl, rfl⟩
  · contradiction

theorem Fragment.of_mem_finds (index : Lines.Index) (f : Fragment) (x : Record)
    (hx : x ∈ (f.finds r file index).records) :
    1 ≤ x.line ∧ r.test x.text = true ∧ f.Shows x ∧ x.file = file := by
  have hline : ∀ offset, 1 ≤ index.lineAt offset := fun offset => Nat.succ_pos _
  cases f with
  | value v =>
    simp only [finds] at hx
    split at hx
    · contradiction
    · rename_i hne
      obtain ⟨hat, htest, htext, hfile⟩ := of_mem_find r file _ _ x hx
      exact ⟨hat ▸ hline _, htest, ⟨by simpa using hne, htext⟩, hfile⟩
  | text start content =>
    simp only [finds] at hx
    split at hx
    · contradiction
    · rename_i hne
      obtain ⟨hat, htest, htext, hfile⟩ := of_mem_find r file _ _ x hx
      exact ⟨hat ▸ hline _, htest, ⟨by simpa using hne, htext⟩, hfile⟩
  | script start language content =>
    simp only [finds] at hx
    split at hx
    · contradiction
    · split at hx
      · rename_i records h
        exact Script.of_mem_records? r language file _ content records h x hx
      · contradiction

theorem of_mem_finds (text : List Char) (x : Record) (hx : x ∈ (finds r file text).records) :
    1 ≤ x.line ∧ r.test x.text = true ∧ (∃ f ∈ fragmentsOf (document text), f.Shows x) ∧
      x.file = file := by
  obtain ⟨found, hfound, hx⟩ := List.mem_flatMap.mp hx
  obtain ⟨f, hf, rfl⟩ := List.mem_map.mp hfound
  obtain ⟨hline, htest, hshows, hfile⟩ := f.of_mem_finds r file _ x hx
  exact ⟨hline, htest, ⟨f, hf, hshows⟩, hfile⟩

/-- A page with all white space in an attribute. -/
def blankPage : List Char := "<p title=\"".toList ++ Text.blanks ++ "\">".toList

theorem fragmentsOf_blankPage :
    fragmentsOf (document blankPage) = [.value ⟨Text.blanks, 10⟩] := by decide +kernel

theorem finds_blankPage (h : r.test (String.ofList Text.blanks) = true) :
    (finds r file blankPage).records = [⟨file, 1, .markup, String.ofList Text.blanks⟩] := by
  have hne : Text.blanks ≠ [] := by decide
  have hline : (Lines.Index.ofText blankPage).lineAt 10 = 1 := by
    rw [Lines.Index.lineAt_ofText]
    decide
  simp [finds, fragmentsOf_blankPage, Fragment.finds, find, hne, h, hline]

end Markup

namespace Search

variable (s : Search) (file : String)

theorem records_readScript (l : Language) (code : List Char) :
    (s.readScript file l code).records = (Script.records? s.range l file 0 code).getD [] := by
  unfold readScript
  cases Script.records? s.range l file 0 code with
  | none => rfl
  | some records => rfl

/-- A text is read as a script, with or without something in front, or as a page. -/
theorem outcome_cases (extension : String) (text : List Char) :
    (∃ l code, s.outcome file extension text = s.readScript file l code) ∨
      (s.outcome file extension text).records =
        (Markup.finds s.range file (dropMark text)).records := by
  simp only [outcome]
  split
  · exact .inl ⟨_, _, rfl⟩
  · exact .inl ⟨_, _, rfl⟩
  · exact .inr rfl

/-- A record names its file, is in range and on a line, and if it is of markup, it shows a run of
text or the value of an attribute. -/
theorem of_mem_outcome (extension : String) (text : List Char) (x : Record)
    (hx : x ∈ (s.outcome file extension text).records) :
    1 ≤ x.line ∧ s.range.test x.text = true ∧ (x.source = .markup →
      ∃ f ∈ Markup.fragmentsOf (Markup.document (dropMark text)), f.Shows x) ∧
      x.file = file := by
  rcases s.outcome_cases file extension text with ⟨l, code, heq⟩ | heq
  · rw [heq, records_readScript] at hx
    cases h : Script.records? s.range l file 0 code with
    | none =>
      rw [h] at hx
      contradiction
    | some records =>
      rw [h] at hx
      obtain ⟨hline, htest, hsource, hfile⟩ :=
        Script.of_mem_records? s.range l file 0 code records h x hx
      refine ⟨hline, htest, ?_, hfile⟩
      intro hm
      rw [hsource] at hm
      contradiction
  · rw [heq] at hx
    obtain ⟨hline, htest, hfragment, hfile⟩ := Markup.of_mem_finds s.range file _ x hx
    exact ⟨hline, htest, fun _ => hfragment, hfile⟩

/-- A record that shows nothing is the value of an attribute or a literal. -/
theorem exists_value_of_blank (extension : String) (text : List Char) (x : Record)
    (hx : x ∈ (s.outcome file extension text).records) (hm : x.source = .markup) :
    x.text ≠ "" ∧ (Text.trim x.text.toList = [] →
      ∃ v, .value v ∈ Markup.fragmentsOf (Markup.document (dropMark text)) ∧
        x.text = String.ofList v.content) := by
  obtain ⟨-, -, hfragment, -⟩ := s.of_mem_outcome file extension text x hx
  obtain ⟨f, hf, hshows⟩ := hfragment hm
  cases f with
  | value v =>
    obtain ⟨hne, htext⟩ := hshows
    exact ⟨by simpa [htext] using hne, fun _ => ⟨v, hf, htext⟩⟩
  | text start content =>
    obtain ⟨hne, htext⟩ := hshows
    rw [htext, String.toList_ofList, Text.trim_trim]
    exact ⟨by simpa using hne, fun hblank => absurd hblank hne⟩
  | script start language content =>
    have hsource : x.source = .script := hshows
    rw [hsource] at hm
    contradiction

theorem trim_ne_nil_of_mem_outcome
    (h : ∀ t, Text.AllBlank t → s.range.test (String.ofList t) = false)
    (extension : String) (text : List Char) (x : Record)
    (hx : x ∈ (s.outcome file extension text).records) : Text.trim x.text.toList ≠ [] := by
  intro hblank
  obtain ⟨-, htest, -⟩ := s.of_mem_outcome file extension text x hx
  have hnone := h x.text.toList ((Text.trim_eq_nil_iff _).mp hblank)
  rw [String.ofList_toList, htest] at hnone
  contradiction

theorem test_eq_false_of_class (cs : CharSet) (hs : s.range.pattern = .set cs)
    (h : ∀ c, Text.isBlank c = true → cs.contains c = false) (t : List Char)
    (ht : Text.AllBlank t) : s.range.test (String.ofList t) = false := by
  rw [Range.test, hs, Pattern.occursIn_set, String.toList_ofList, List.any_eq_false]
  intro c hc
  rw [h c (ht c hc)]
  decide

/-- With a class that has white space in it, the value of an attribute can be recorded that is
nothing but white space. -/
theorem exists_blank_of_class (cs : CharSet) (hs : s.range.pattern = .set cs) (c : Char)
    (hc : Text.isBlank c = true) (hmem : cs.contains c = true) :
    ∃ x ∈ (s.outcome file "html" Markup.blankPage).records, Text.trim x.text.toList = [] := by
  have htest : s.range.test (String.ofList Text.blanks) = true := by
    rw [Range.test, hs, Pattern.occursIn_set, String.toList_ofList, List.any_eq_true]
    exact ⟨c, Text.mem_blanks c hc, hmem⟩
  have hfinds := Markup.finds_blankPage s.range file htest
  refine ⟨⟨file, 1, .markup, String.ofList Text.blanks⟩, ?_, ?_⟩
  · change _ ∈ (Markup.finds s.range file Markup.blankPage).records
    rw [hfinds]
    exact List.mem_cons_self
  · rw [String.toList_ofList, Text.trim_eq_nil_iff]
    exact Text.allBlank_blanks

end Search

/-- Every record stands on a line and is in range. It shows something if no white space alone is in
range; for a range that is one class this is so exactly if no member of the class is white space.
Otherwise values of attributes and literals are recorded that show nothing. -/
theorem record_invariant (s : Search) (file : String) :
    (∀ text, ∀ x ∈ (s.visitText file text).records,
      1 ≤ x.line ∧ s.range.test x.text = true ∧
      (x.source = .markup → x.text ≠ "" ∧ (Text.trim x.text.toList = [] →
        ∃ v, .value v ∈ Markup.fragmentsOf (Markup.document (Search.dropMark text)) ∧
          x.text = String.ofList v.content)) ∧
      ((∀ t, Text.AllBlank t → s.range.test (String.ofList t) = false) →
        Text.trim x.text.toList ≠ [])) ∧
    ∀ cs, s.range.pattern = .set cs →
      ((∀ extension text, ∀ x ∈ (s.outcome file extension text).records,
          Text.trim x.text.toList ≠ []) ↔
        ∀ c, Text.isBlank c = true → cs.contains c = false) := by
  refine ⟨?_, ?_⟩
  · intro text x hx
    unfold Search.visitText at hx
    split at hx
    · rename_i extension hextension
      obtain ⟨hline, htest, -⟩ := s.of_mem_outcome file extension text x hx
      exact ⟨hline, htest, s.exists_value_of_blank file extension text x hx,
        fun h => s.trim_ne_nil_of_mem_outcome file h extension text x hx⟩
    · contradiction
  · intro cs hs
    constructor
    · intro h c hc
      rw [Bool.eq_false_iff]
      intro hmem
      obtain ⟨x, hx, hblank⟩ := s.exists_blank_of_class file cs hs c hc hmem
      exact h "html" Markup.blankPage x hx hblank
    · intro h extension text x hx
      exact s.trim_ne_nil_of_mem_outcome file (s.test_eq_false_of_class cs hs h) extension text x hx

/-- With the characters of ASCII that can be printed, of which the blank is one, an attribute and a
literal are recorded that are one blank. -/
theorem exists_blank_record :
    ∃ s, Search.ofSettings .ample { Settings.default with range := "\\x20-\\x7e" } = .ok s ∧
      s.visitText "a.html" "<p title=\" \">".toList =
        .extracted [⟨"a.html", 1, .markup, " "⟩] 0 ∧
      s.visitText "a.js" "f(' ')".toList = .extracted [⟨"a.js", 1, .script, " "⟩] 0 ∧
      Text.trim " ".toList = [] :=
  ⟨⟨⟨"\\x20-\\x7e", .set (.range ' ' '~')⟩, none, Settings.defaultSuffixes⟩, rfl, by decide +kernel,
    by decide +kernel, by decide⟩

/-- Ideographs are no white space, and with them a blank beside an ideograph is kept in an attribute
and cut off a run of text. -/
theorem record_invariant_ideographs :
    let s : Search := ⟨⟨Range.default, .set (.range '\u4e00' '\u9fff')⟩, none,
      Settings.defaultSuffixes⟩
    let page := "<p title='中 '> 文 </p>".toList
    s.visitText "a.html" page =
        .extracted [⟨"a.html", 1, .markup, "中 "⟩, ⟨"a.html", 1, .markup, "文"⟩] 0 ∧
      (1 ≤ 1 ∧ s.range.test "中 " = true ∧ "中 " ≠ "" ∧ Text.trim "中 ".toList ≠ []) ∧
      ∀ text, ∀ x ∈ (s.outcome "a.html" "html" text).records, Text.trim x.text.toList ≠ [] := by
  intro s page
  obtain ⟨records, classes⟩ := record_invariant s "a.html"
  have hsolid : ∀ c, Text.isBlank c = true →
      (CharSet.range '\u4e00' '\u9fff').contains c = false := by
    intro c hc
    have hall : Text.blanks.all
        (fun c => !(CharSet.range '\u4e00' '\u9fff').contains c) = true := by
      decide
    have hmem := List.all_eq_true.mp hall c (Text.mem_blanks c hc)
    rwa [Bool.not_eq_true'] at hmem
  have hnone := s.test_eq_false_of_class _ rfl hsolid
  have hvisit : s.visitText "a.html" page =
      .extracted [⟨"a.html", 1, .markup, "中 "⟩, ⟨"a.html", 1, .markup, "文"⟩] 0 := by
    decide +kernel
  obtain ⟨hline, htest, hmarkup, hshows⟩ := records page ⟨"a.html", 1, .markup, "中 "⟩
    (by rw [hvisit]; exact List.mem_cons_self)
  refine ⟨hvisit, ⟨hline, htest, (hmarkup rfl).1, hshows hnone⟩, ?_⟩
  exact (classes _ rfl).mpr hsolid "html"

end Glean
