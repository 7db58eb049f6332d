import Glean.Proofs.Literals
import Glean.Proofs.PageScripts
import Glean.Search

set_option autoImplicit false

/-!
# Lines of records

The line of a record is the line of a byte of the file: neither the replaced import calls nor the
place of a script inside a page nor what is put in front of data moves it.
-/
namespace Glean

namespace Script

/-- Where a literal that is read comes from: its first byte is the one at `o` of the script as it
was written, outside all import calls. -/
structure Origin (l : Language) (code : List Char) (t : Literal) (o : Nat) : Prop where
  token : ∃ tokens, l.literals? (ImportCall.neutralize code) = some tokens ∧ t ∈ tokens
  stands : t.StandsIn (ImportCall.neutralize code)
  carried : ImportCall.Carries code o t.start

theorem exists_origin (l : Language) (code : List Char) (tokens : List Literal)
    (h : l.literals? (ImportCall.neutralize code) = some tokens) (t : Literal) (ht : t ∈ tokens) :
    ∃ o, Origin l code t o := by
  obtain ⟨hstands, hliteral⟩ := l.standsIn_of_literals? _ tokens h t ht
  obtain ⟨before, behind, hcode, hstart⟩ := hstands
  obtain ⟨q, rest, htext, hq⟩ := exists_first l.dialect t.text hliteral
  have hfirst : ImportCall.neutralize code = before ++ q :: (rest ++ behind) := by
    rw [hcode, htext, List.cons_append]
  obtain ⟨o, ho⟩ := ImportCall.exists_carries code before _ q hq hfirst
  refine ⟨o, ⟨tokens, h, ht⟩, ⟨before, behind, hcode, hstart⟩, ?_⟩
  rw [hstart]
  exact ho

theorem exists_origin_of_mem_read (r : Range) (l : Language) (file : String) (before : Nat)
    (code : List Char) (records : List Record) (h : read r l file before code = .ok records)
    (x : Record) (hx : x ∈ records) :
    ∃ t o, Origin l code t o ∧
      x = ⟨file, Lines.lineAt code o + before, .script, String.ofList t.body⟩ := by
  obtain ⟨tokens, htokens, rfl⟩ := (read_eq_ok_iff r l file before code records).mp h
  obtain ⟨t, ht, -, rfl⟩ := (mem_recordsOf r file before _ tokens x).mp hx
  obtain ⟨o, ho⟩ := exists_origin l code tokens htokens t ht
  refine ⟨t, o, ho, ?_⟩
  rw [Literal.recordIn, ho.carried.lineAt_eq]

end Script

namespace Markup

theorem lineAt_embedded (page : List Char) (e : Embedded) (h : e ∈ scriptsOf (document page))
    (hb : e.isBlank = false) (o : Nat) (ho : o ≤ byteSize e.content) :
    Lines.lineAt e.content o + (Lines.lineAt page e.start - 1) =
      Lines.lineAt page (e.start + o) := by
  obtain ⟨before, behind, hpage, hstart⟩ := exists_body page e h hb
  rw [hstart, hpage, Lines.lineAt_within before, Lines.lineAt_append_of_le e.content behind o ho]

theorem exists_origin_of_mem_embedded (r : Range) (file : String) (page : List Char) (e : Embedded)
    (h : e ∈ scriptsOf (document page)) (hb : e.isBlank = false) (records : List Record)
    (hread : e.read r file page = .ok records) (x : Record) (hx : x ∈ records) :
    ∃ t o, Script.Origin e.language e.content t o ∧
      x = ⟨file, Lines.lineAt page (e.start + o), .script, String.ofList t.body⟩ := by
  obtain ⟨t, o, ho, rfl⟩ :=
    Script.exists_origin_of_mem_read r e.language file _ e.content records hread x hx
  refine ⟨t, o, ho, ?_⟩
  rw [lineAt_embedded page e h hb o ho.carried.le_byteSize]

theorem exists_mem_read (r : Range) (file : String) (page : List Char) (x : Record)
    (hx : x ∈ (finds r file page).records) (hs : x.source = .script) :
    ∃ e ∈ scriptsOf (document page), e.isBlank = false ∧
      ∃ records, e.read r file page = .ok records ∧ x ∈ records := by
  have hmem : x ∈ (finds r file page).records.filter (·.source = .script) :=
    List.mem_filter.mpr ⟨hx, decide_eq_true hs⟩
  have hfinds : finds r file page = gathered r file page (fragmentsOf (document page)) := rfl
  rw [hfinds, filter_script_gathered, List.mem_flatMap] at hmem
  obtain ⟨e, he, hxe⟩ := hmem
  rw [readIn, ← scriptsOf_eq, List.mem_filter, Bool.not_eq_true'] at he
  refine ⟨e, he.1, he.2, ?_⟩
  cases hread : e.read r file page with
  | ok records =>
    rw [hread] at hxe
    exact ⟨records, rfl, hxe⟩
  | error fault =>
    rw [hread] at hxe
    contradiction

end Markup

namespace Search

/-- A literal of data comes from the data, not from what is put in front of it. -/
theorem exists_origin_of_data (data : List Char) (tokens : List Script.Literal)
    (h : Language.json.literals? (ImportCall.neutralize (dataLead ++ data)) = some tokens)
    (t : Script.Literal) (ht : t ∈ tokens) :
    ∃ o, Script.Origin .json (dataLead ++ data) t (byteSize dataLead + o) := by
  have hlead : 'i' ∉ dataLead := by decide
  obtain ⟨hstands, hliteral⟩ := Language.json.standsIn_of_literals? _ tokens h t ht
  have hquoted : Script.isQuoted t.text = true := by
    simpa only [Script.Dialect.isLiteral, Language.dialect, Script.Dialect.hasTypes,
      Bool.false_and, Bool.or_false] using hliteral
  obtain ⟨q, rest, htext, hq⟩ := Script.exists_quote t.text hquoted
  -- There is no quote in front of the data, so the literal begins in the data.
  have hnot : q ∉ dataLead := by
    intro hm
    have hall : dataLead.all (fun c => !Script.isQuote c) = true := by decide
    have hnone := List.all_eq_true.mp hall q hm
    rw [hq] at hnone
    contradiction
  obtain ⟨before, behind, hcode, hstart⟩ := id hstands
  rw [ImportCall.neutralize_append_of_not_mem dataLead data hlead, htext, List.cons_append] at hcode
  obtain ⟨between, hbefore, hdata⟩ := exists_eq_append_of_not_mem _ _ _ _ q hnot hcode
  obtain ⟨o, ho⟩ :=
    ImportCall.exists_carries data between _ q (Script.isFiller_of_isQuote q hq) hdata
  refine ⟨o, ⟨tokens, h, ht⟩, hstands, ?_⟩
  rw [hstart, hbefore, byteSize_append]
  exact ho.append_of_not_mem dataLead hlead

theorem exists_origin_of_mem_data (s : Search) (file extension : String) (data : List Char)
    (hl : Language.ofExtension? extension = some .json) (x : Record)
    (hx : x ∈ (s.outcome file extension data).records) :
    ∃ t o, Script.Origin .json (dataLead ++ dropMark data) t (byteSize dataLead + o) ∧
      x = ⟨file, Lines.lineAt (dropMark data) o, .script, String.ofList t.body⟩ := by
  have houtcome : s.outcome file extension data =
      s.readScript file .json (dataLead ++ dropMark data) := by
    simp only [outcome, hl, Option.getD_some, Language.family]
  rw [houtcome, readScript, Script.records?_eq] at hx
  cases htokens : Language.json.literals? (ImportCall.neutralize (dataLead ++ dropMark data)) with
  | none =>
    rw [htokens] at hx
    contradiction
  | some tokens =>
    rw [htokens] at hx
    obtain ⟨t, ht, -, rfl⟩ := (Script.mem_recordsOf s.range file 0 _ tokens x).mp hx
    obtain ⟨o, ho⟩ := exists_origin_of_data (dropMark data) tokens htokens t ht
    refine ⟨t, o, ho, ?_⟩
    have hbreaks : Lines.breaks dataLead = 0 := by decide
    rw [Script.Literal.recordIn, ho.carried.lineAt_eq, Lines.lineAt_append_add, hbreaks,
      Nat.zero_add, Nat.add_zero]

end Search

/-- The line of a record is the line of the byte that its literal comes from: in a script by itself,
in the page that a script is a part of, and in data. -/
theorem line_of_script_record (s : Search) (file : String) :
    (∀ l before code records, Script.read s.range l file before code = .ok records →
      ∀ x ∈ records, ∃ t o, Script.Origin l code t o ∧
        x = ⟨file, Lines.lineAt code o + before, .script, String.ofList t.body⟩) ∧
    (∀ page, ∀ e ∈ Markup.scriptsOf (Markup.document page), e.isBlank = false →
      ∀ records, e.read s.range file page = .ok records →
      ∀ x ∈ records, ∃ t o, Script.Origin e.language e.content t o ∧
        x = ⟨file, Lines.lineAt page (e.start + o), .script, String.ofList t.body⟩) ∧
    (∀ page, ∀ x ∈ (Markup.finds s.range file page).records, x.source = .script →
      ∃ e ∈ Markup.scriptsOf (Markup.document page), e.isBlank = false ∧
        ∃ t o, Script.Origin e.language e.content t o ∧
          x = ⟨file, Lines.lineAt page (e.start + o), .script, String.ofList t.body⟩) ∧
    ∀ extension data, Language.ofExtension? extension = some .json →
      ∀ x ∈ (s.outcome file extension data).records,
      ∃ t o, Script.Origin .json (Search.dataLead ++ Search.dropMark data) t
          (byteSize Search.dataLead + o) ∧
        x = ⟨file, Lines.lineAt (Search.dropMark data) o, .script, String.ofList t.body⟩ := by
  refine ⟨?_, ?_, ?_, ?_⟩
  · intro l before code records h x hx
    exact Script.exists_origin_of_mem_read s.range l file before code records h x hx
  · intro page e he hb records hread x hx
    exact Markup.exists_origin_of_mem_embedded s.range file page e he hb records hread x hx
  · intro page x hx hs
    obtain ⟨e, he, hb, records, hread, hxe⟩ := Markup.exists_mem_read s.range file page x hx hs
    exact ⟨e, he, hb,
      Markup.exists_origin_of_mem_embedded s.range file page e he hb records hread x hxe⟩
  · intro extension data hl x hx
    exact Search.exists_origin_of_mem_data s file extension data hl x hx

/-- An import call over two lines, a script on the second line of a page, and data of two lines. -/
theorem line_behind_import_call :
    let code := "import('x\n');\nf('中')".toList
    let page := "<p>\n</p><script>\n'中'</script>".toList
    let script : Markup.Embedded := ⟨16, .javascript, "\n'中'".toList⟩
    let data := "[\n'中']".toList
    (∃ t o, Script.Origin .javascript code t o ∧
      (⟨"a", 6, .script, "中"⟩ : Record) =
        ⟨"a", Lines.lineAt code o + 3, .script, String.ofList t.body⟩) ∧
    (∃ t o, Script.Origin .javascript script.content t o ∧
      (⟨"a", 3, .script, "中"⟩ : Record) =
        ⟨"a", Lines.lineAt page (script.start + o), .script, String.ofList t.body⟩) ∧
    (∃ e ∈ Markup.scriptsOf (Markup.document page), e.isBlank = false ∧
      ∃ t o, Script.Origin e.language e.content t o ∧
        (⟨"a", 3, .script, "中"⟩ : Record) =
          ⟨"a", Lines.lineAt page (e.start + o), .script, String.ofList t.body⟩) ∧
    ∃ t o, Script.Origin .json (Search.dataLead ++ Search.dropMark data) t
        (byteSize Search.dataLead + o) ∧
      (⟨"a", 2, .script, "中"⟩ : Record) =
        ⟨"a", Lines.lineAt (Search.dropMark data) o, .script, String.ofList t.body⟩ := by
  intro code page script data
  let s : Search := ⟨⟨"", .set (.range '\u4e00' '\u9fff')⟩, none, []⟩
  obtain ⟨scripts, embedded, pages, datas⟩ := line_of_script_record s "a"
  refine ⟨?_, ?_, ?_, ?_⟩
  · refine scripts .javascript 3 code [⟨"a", 6, .script, "中"⟩] ?_ _ List.mem_cons_self
    rw [Script.read_eq_ok_iff]
    exact ⟨[⟨7, "'中'".toList⟩], by decide +kernel, by decide +kernel⟩
  · refine embedded page script (by decide +kernel) (by decide) [⟨"a", 3, .script, "中"⟩] ?_ _
      List.mem_cons_self
    rw [Markup.Embedded.read, Script.read_eq_ok_iff]
    exact ⟨[⟨1, "'中'".toList⟩], by decide +kernel, by decide +kernel⟩
  · exact pages page _ (by decide +kernel) rfl
  · exact datas "json" data (by decide +kernel) _ (by decide +kernel)

end Glean
