import Glean.Proofs.DataCounts
import Glean.Proofs.DataScripts
import Glean.Proofs.Narrowing

set_option autoImplicit false

/-!
# Records of data

What is found in data: its strings, each on its line, exactly where no string or anything around it
looks like an import call.
-/
namespace Glean

namespace Data

/-- A string further on. -/
def Standing.shift (n : Nat) (s : Standing) : Standing := ⟨n + s.start, s.string⟩

theorem Label.strings_add {k : Kind} (label : Label k) (n o : Nat) :
    label.strings (n + o) = (label.strings o).map (.shift n) := by
  cases label <;> rfl

mutual

theorem Value.strings_add (v : Value) (n o : Nat) :
    v.strings (n + o) = (v.strings o).map (.shift n) := by
  match v with
  | .word _ => rfl
  | .number _ => rfl
  | .string _ => rfl
  | .empty _ _ => rfl
  | .list k items =>
    rw [Value.strings, Value.strings, Nat.add_assoc]
    exact items.strings_add n (o + k.opening.utf8Size)

theorem Items.strings_add {k : Kind} (items : Items k) (n o : Nat) :
    items.strings (n + o) = (items.strings o).map (.shift n) := by
  match items with
  | .last before label v behind =>
    simp only [Items.strings, Nat.add_assoc, label.strings_add n, v.strings_add n, List.map_append]
  | .more before label v behind others =>
    simp only [Items.strings, Nat.add_assoc, label.strings_add n, v.strings_add n,
      others.strings_add n, List.map_append]

end

theorem body_literal (s : Standing) : (Script.Parser.literal s).body = s.string.body := by
  simp [Script.Parser.literal, Script.Literal.body, Quoted.text, Script.dropQuote, Script.isQuote]

end Data

namespace Search

open Data

/-- A string of data gives the same record as the literal that is found for it. -/
theorem recordIn_shift (d : Document) (file : String) (s : Standing) :
    (Script.Parser.literal (s.shift 8)).recordIn file 0 (dataLead ++ d.text) =
      ⟨file, Lines.lineAt d.text s.start, .script, String.ofList s.string.body⟩ := by
  have hline := Lines.lineAt_append_add dataLead d.text s.start
  have hbreaks : Lines.breaks dataLead = 0 := by decide
  have hsize : byteSize dataLead = 8 := by decide
  rw [hbreaks, hsize, Nat.zero_add] at hline
  rw [Script.Literal.recordIn, body_literal]
  simp only [Script.Parser.literal, Standing.shift, hline, Nat.add_zero]

theorem recordsOf_data (d : Document) (r : Range) (file : String) :
    Script.recordsOf r file 0 (dataLead ++ d.text)
      ((d.value.strings (8 + byteSize d.before.text)).map Script.Parser.literal) =
        d.records r file := by
  have htest : (fun t : Script.Literal => r.test (String.ofList t.body)) ∘
      (Script.Parser.literal ∘ Standing.shift 8) =
        fun s => r.test (String.ofList s.string.body) := by
    funext s
    simp only [Function.comp_apply, body_literal, Standing.shift]
  have hrecord : (fun t : Script.Literal => t.recordIn file 0 (dataLead ++ d.text)) ∘
      (Script.Parser.literal ∘ Standing.shift 8) =
        fun s => ⟨file, Lines.lineAt d.text s.start, .script, String.ofList s.string.body⟩ := by
    funext s
    exact recordIn_shift d file s
  rw [Value.strings_add, List.map_map, Script.recordsOf, List.filter_map, List.map_map, htest,
    hrecord]
  rfl

/-- Data does not begin with a byte order mark. -/
theorem dropMark_data (d : Document) : dropMark d.text = d.text := by
  have hhead : ∀ c, d.text.head? = some c → c ≠ Report.mark := by
    intro c hc
    rw [Document.text] at hc
    cases hbefore : d.before.text with
    | nil =>
      obtain ⟨first, hfirst, text, htext, -⟩ := Script.Parser.exists_head d.value
      rw [hbefore, htext] at hc
      obtain rfl := Option.some.inj hc
      have hall : ∀ c ∈ Script.Parser.heads, c ≠ Report.mark := forall_mem_of_all (by decide)
      exact hall first hfirst
    | cons b gap =>
      rw [hbefore] at hc
      obtain rfl := Option.some.inj hc
      have hblank : ∀ c, isBlank c = true → c ≠ Report.mark := of_isBlank (by decide)
      exact hblank b (d.before.blank b (hbefore ▸ List.mem_cons_self))
  cases htext : d.text with
  | nil => rfl
  | cons c text => rw [dropMark, if_neg (hhead c (by rw [htext]; rfl))]

variable (d : Document) (s : Search) (file extension : String)

theorem visitText_json (hfile : s.extension? file = some extension)
    (hdata : Language.ofExtension? extension = some .json) :
    s.visitText file d.text = s.readScript file .json (dataLead ++ d.text) := by
  rw [visitText, hfile]
  simp only [outcome, hdata, Option.getD_some, Language.family, dropMark_data]

theorem visitText_of_no_call (hfile : s.extension? file = some extension)
    (hdata : Language.ofExtension? extension = some .json)
    (h : ImportCall.occursIn d.text = false) :
    s.visitText file d.text = .extracted (d.records s.range file) 0 := by
  have hlead : 'i' ∉ dataLead := by decide
  have hneutral : ImportCall.neutralize (dataLead ++ d.text) = dataLead ++ d.text := by
    rw [ImportCall.neutralize_append_of_not_mem _ _ hlead, ImportCall.neutralize_eq_self _ h]
  rw [visitText_json d s file extension hfile hdata, readScript, Script.records?_eq, hneutral,
    literals?_data, Option.map_some, recordsOf_data]

theorem letters_of_records (records : List Record)
    (h : d.records Range.all file = records) :
    letters d.strings = (records.flatMap (·.text.toList)).count 'i' := by
  have hall : d.strings.filter (fun s => Range.all.test (String.ofList s.string.body)) =
      d.strings := by
    rw [List.filter_eq_self]
    intro s hs
    exact Range.test_all _
  rw [← h, Document.records, hall, List.flatMap_map, letters]
  simp only [String.toList_ofList]

/-- Where something looks like a call, what is found is not all there is: the strings together have
more letters than what is read. -/
theorem visitText_ne_of_call (hfile : s.extension? file = some extension)
    (hdata : Language.ofExtension? extension = some .json) (hall : s.range = Range.all)
    (h : ImportCall.occursIn d.text = true) :
    s.visitText file d.text ≠ .extracted (d.records s.range file) 0 := by
  have hlead : 'i' ∉ dataLead := by decide
  rw [visitText_json d s file extension hfile hdata, readScript, Script.records?_eq,
    ImportCall.neutralize_append_of_not_mem _ _ hlead, hall]
  generalize hread : dataLead ++ ImportCall.neutralize d.text = code
  cases htokens : Language.json.literals? code with
  | none =>
    intro hequal
    contradiction
  | some tokens =>
    intro hequal
    rw [Option.map_some] at hequal
    have hrecords : Script.recordsOf Range.all file 0 code tokens = d.records Range.all file :=
      (Outcome.extracted.inj hequal).1
    have hletters : letters d.strings = (tokens.flatMap (·.body)).count 'i' := by
      have hshown := congrArg (List.flatMap Prod.snd) (Script.map_recordsOf_all file code tokens)
      rw [List.flatMap_map, List.flatMap_map] at hshown
      rw [letters_of_records d file _ hrecords.symm]
      exact congrArg (List.count 'i') hshown
    have hcount := Script.count_literals?_le _ code tokens htokens 'i'
    rw [← hread, List.count_append, List.count_eq_zero_of_not_mem hlead, Nat.zero_add] at hcount
    have hless := ImportCall.count_neutralize_lt d.text h
    rw [d.count_text, hletters] at hless
    omega

/-- Data is read completely for every search exactly if nothing in it looks like an import call. -/
theorem visitText_data_iff (hfile : Path.extension? file = some extension)
    (hdata : Language.ofExtension? extension = some .json) :
    (∀ s : Search, s.extension? file = some extension →
      s.visitText file d.text = .extracted (d.records s.range file) 0) ↔
      ImportCall.occursIn d.text = false := by
  constructor
  · intro hcomplete
    let s : Search := ⟨.all, none, [extension]⟩
    have hs : s.extension? file = some extension := by
      rw [extension?, hfile]
      simp [s, excludes]
    rw [← Bool.not_eq_true]
    intro hcall
    exact visitText_ne_of_call d s file extension hs hdata rfl hcall (hcomplete s hs)
  · intro hnone s hs
    exact visitText_of_no_call d s file extension hs hdata hnone

/-- An object of one member whose string reads like an import call gives no record, and one whose
name and string read like it together is not read at all. -/
theorem not_visitText_data :
    ∃ s, Search.ofSettings .ample Settings.default = .ok s ∧
      (∃ d : Document, d.text = "\x7b\"k\": \"import(中)\"\x7d".toList ∧
        s.visitText "a.json" d.text = .extracted [] 0 ∧
        d.records s.range "a.json" = [⟨"a.json", 1, .script, "import(中)"⟩]) ∧
      ∃ d : Document, d.text = "\x7b\"import(\": \"中)\"\x7d".toList ∧
        s.visitText "a.json" d.text = .failed 1 ∧
        d.records s.range "a.json" = [⟨"a.json", 1, .script, "中)"⟩] := by
  refine ⟨⟨⟨Range.default, .set (.range '\u4e00' '\u9fff')⟩, none, Settings.defaultSuffixes⟩, rfl,
    ?_, ?_⟩
  · let name : Quoted := ⟨[.plain 'k' rfl]⟩
    let string : Quoted := ⟨[.plain 'i' rfl, .plain 'm' rfl, .plain 'p' rfl, .plain 'o' rfl,
      .plain 'r' rfl, .plain 't' rfl, .plain '(' rfl, .plain '中' rfl, .plain ')' rfl]⟩
    exact ⟨.member name string, by decide +kernel, by decide +kernel, by decide +kernel⟩
  · let name : Quoted := ⟨[.plain 'i' rfl, .plain 'm' rfl, .plain 'p' rfl, .plain 'o' rfl,
      .plain 'r' rfl, .plain 't' rfl, .plain '(' rfl]⟩
    let string : Quoted := ⟨[.plain '中' rfl, .plain ')' rfl]⟩
    exact ⟨.member name string, by decide +kernel, by decide +kernel, by decide +kernel⟩

theorem visitText_data_iff_list :
    let s : Search := ⟨⟨Range.default, .set (.range '\u4e00' '\u9fff')⟩, none, ["json"]⟩
    let string : Quoted := ⟨[.plain '中' rfl, .escape 'n' (by decide)]⟩
    let number : Number := ⟨true, ⟨'1', [], forall_mem_of_all rfl⟩,
      some ⟨'5', [], forall_mem_of_all rfl⟩, none, fun _ => rfl⟩
    let line : Gap := ⟨['\n'], forall_mem_of_all rfl⟩
    let items : Items .array :=
      .more .empty .none (.number number) .empty (.last line .none (.string string) .empty)
    let d : Document := ⟨.empty, .list .array items, line⟩
    d.text = "[-1.5,\n\"中\\n\"]\n".toList ∧
      s.visitText "a.json" d.text = .extracted [⟨"a.json", 2, .script, "中\\n"⟩] 0 := by
  intro s string number line items d
  have hnone : ImportCall.occursIn d.text = false := by decide +kernel
  have hread := (visitText_data_iff d "a.json" "json" rfl rfl).mpr hnone s rfl
  refine ⟨by decide +kernel, ?_⟩
  rw [hread]
  decide +kernel

end Search

end Glean
