import Glean.Proofs.Literals
import Glean.Proofs.ScriptRecords

set_option autoImplicit false

/-!
# What replacing calls can be seen by

The stretches that are replaced are found without regard to what they are a part of. Where none is,
a script is read as it was written; a literal that holds one is never found as it was written.
-/
namespace Glean

/-- A range whose pattern has an empty branch. -/
def Range.all : Range := ⟨"a]||[b", .alt (.set (.one 'a')) (.alt .empty (.set (.one 'b')))⟩

theorem Range.read_all : Range.read "a]||[b" = .ok Range.all := rfl

theorem Range.test_all (text : String) : Range.all.test text = true := by
  simp only [Range.test, Range.all, Pattern.Expr.occursIn, Pattern.Expr.reach, Pattern.join,
    List.replicate_succ, List.zipWith_cons_cons, Bool.or_true, Bool.true_or, List.any_cons, id_eq]

namespace Script

def Literal.shown (text : List Char) (t : Literal) : Nat × List Char :=
  (Lines.lineAt text t.start, t.body)

/-- Whether a script with some literals gives the records of these, whatever is in range. -/
def ReadsAsWritten (l : Language) (code : List Char) (tokens : List Literal) : Prop :=
  ∀ spec r file before, Range.read spec = .ok r →
    read r l file before code = .ok (recordsOf r file before code tokens)

theorem recordsOf_eq (r : Range) (file : String) (before : Nat) (text : List Char)
    (tokens : List Literal) :
    recordsOf r file before text tokens =
      ((tokens.map (·.shown text)).filter fun p => r.test (String.ofList p.2)).map fun p =>
        ⟨file, p.1 + before, .script, String.ofList p.2⟩ := by
  rw [recordsOf, List.filter_map, List.map_map]
  rfl

theorem map_recordsOf_all (file : String) (text : List Char) (tokens : List Literal) :
    (recordsOf Range.all file 0 text tokens).map (fun x => (x.line, x.text.toList)) =
      tokens.map (·.shown text) := by
  have hall : tokens.filter (fun t => Range.all.test (String.ofList t.body)) = tokens := by
    rw [List.filter_eq_self]
    intro t ht
    exact Range.test_all _
  rw [recordsOf, hall, List.map_map]
  congr
  funext t
  simp only [Function.comp_apply, Literal.recordIn, Literal.shown, String.toList_ofList,
    Nat.add_zero]

theorem readsAsWritten_iff (l : Language) (code : List Char) (tokens : List Literal) :
    ReadsAsWritten l code tokens ↔
      ∃ found, l.literals? (ImportCall.neutralize code) = some found ∧
        found.map (·.shown (ImportCall.neutralize code)) = tokens.map (·.shown code) := by
  constructor
  · intro h
    have hread := h "a]||[b" Range.all "" 0 Range.read_all
    rw [read_eq_ok_iff] at hread
    obtain ⟨found, hfound, hrecords⟩ := hread
    refine ⟨found, hfound, ?_⟩
    -- Every text is in range, so the records show all lines and texts.
    rw [← map_recordsOf_all "", ← map_recordsOf_all "", hrecords]
  · rintro ⟨found, hfound, hshown⟩ spec r file before -
    rw [read_eq_ok_iff]
    refine ⟨found, hfound, ?_⟩
    rw [recordsOf_eq, recordsOf_eq, hshown]

theorem exists_append_dropQuote (text : List Char) : ∃ front, text = front ++ dropQuote text := by
  cases text with
  | nil => exact ⟨[], rfl⟩
  | cons c text =>
    rw [dropQuote]
    split
    · exact ⟨[c], rfl⟩
    · exact ⟨[], rfl⟩

theorem Literal.exists_around_body (t : Literal) :
    ∃ front back, t.text = front ++ t.body ++ back := by
  obtain ⟨front, hfront⟩ := exists_append_dropQuote t.text
  obtain ⟨back, hback⟩ := exists_append_dropQuote (dropQuote t.text).reverse
  refine ⟨front, back.reverse, ?_⟩
  have hbody : dropQuote t.text = t.body ++ back.reverse := by
    rw [body, ← List.reverse_append, ← hback, List.reverse_reverse]
  rw [List.append_assoc, ← hbody, ← hfront]

/-- No record of a script holds an import call. -/
theorem occursIn_text_of_mem_read (r : Range) (l : Language) (file : String) (before : Nat)
    (code : List Char) (records : List Record) (h : read r l file before code = .ok records)
    (x : Record) (hx : x ∈ records) : ImportCall.occursIn x.text.toList = false := by
  obtain ⟨tokens, htokens, rfl⟩ := (read_eq_ok_iff r l file before code records).mp h
  obtain ⟨t, ht, -, rfl⟩ := (mem_recordsOf r file before _ tokens x).mp hx
  obtain ⟨⟨first, last, hcode, -⟩, -⟩ := l.standsIn_of_literals? _ tokens htokens t ht
  obtain ⟨front, back, htext⟩ := t.exists_around_body
  rw [Literal.recordIn, String.toList_ofList, ← Bool.not_eq_true]
  intro hoccurs
  have hinner := ImportCall.occursIn_append front t.body back hoccurs
  rw [← htext] at hinner
  have houter := ImportCall.occursIn_append first t.text last hinner
  rw [List.append_assoc, ← hcode, ImportCall.occursIn_neutralize] at houter
  contradiction

/-- A well-formed script is read as it was written if and only if its literals show the same once
calls are replaced. That is so where nothing looks like a call, and never where a literal does: what
is in that literal is not found at all. -/
theorem readsAsWritten_of_literals (l : Language) (code : List Char) (tokens : List Literal)
    (h : l.literals? code = some tokens) :
    (ReadsAsWritten l code tokens ↔
      ∃ found, l.literals? (ImportCall.neutralize code) = some found ∧
        found.map (·.shown (ImportCall.neutralize code)) = tokens.map (·.shown code)) ∧
    (ImportCall.occursIn code = false → ReadsAsWritten l code tokens) ∧
    ∀ t ∈ tokens, ImportCall.occursIn t.body = true →
      ¬ReadsAsWritten l code tokens ∧
      ∀ r file before records, read r l file before code = .ok records →
        ∀ x ∈ records, x.text ≠ String.ofList t.body := by
  refine ⟨readsAsWritten_iff l code tokens, ?_, ?_⟩
  · intro hnone
    rw [readsAsWritten_iff, ImportCall.neutralize_eq_self code hnone]
    exact ⟨tokens, h, rfl⟩
  · intro t ht hoccurs
    have hnever : ∀ r file before records, read r l file before code = .ok records →
        ∀ x ∈ records, x.text ≠ String.ofList t.body := by
      intro r file before records hread x hx htext
      have hfree := occursIn_text_of_mem_read r l file before code records hread x hx
      rw [htext, String.toList_ofList, hoccurs] at hfree
      contradiction
    refine ⟨?_, hnever⟩
    intro hwritten
    have hread := hwritten "a]||[b" Range.all "" 0 Range.read_all
    have hmem : t.recordIn "" 0 code ∈ recordsOf Range.all "" 0 code tokens :=
      (mem_recordsOf _ _ _ _ _ _).mpr ⟨t, ht, Range.test_all _, rfl⟩
    exact hnever _ _ _ _ hread _ hmem rfl

theorem not_readsAsWritten :
    let code := "'import(中)'".toList
    Language.javascript.literals? code = some [⟨0, code⟩] ∧
      ∃ r, Range.read Range.default = .ok r ∧
        read r .javascript "a.js" 0 code = .ok [] ∧
        recordsOf r "a.js" 0 code [⟨0, code⟩] = [⟨"a.js", 1, .script, "import(中)"⟩] := by
  intro code
  refine ⟨by decide +kernel, ⟨_, .set (.range '\u4e00' '\u9fff')⟩, rfl, ?_, by decide +kernel⟩
  rw [read_eq_ok_iff]
  exact ⟨[⟨0, "'\x7b\x7d'".toList⟩], by decide +kernel, by decide +kernel⟩

theorem readsAsWritten_import_property :
    let code := "['中', 'import(中)']".toList
    let tokens : List Literal := [⟨1, "'中'".toList⟩, ⟨8, "'import(中)'".toList⟩]
    ReadsAsWritten .javascript "a.import;".toList [] ∧
      ¬ReadsAsWritten .javascript code tokens ∧ "中" ≠ String.ofList "import(中)".toList := by
  intro code tokens
  have plain := readsAsWritten_of_literals .javascript "a.import;".toList [] (by decide +kernel)
  have quoted := readsAsWritten_of_literals .javascript code tokens (by decide +kernel)
  obtain ⟨hnot, hnever⟩ := quoted.2.2 ⟨8, "'import(中)'".toList⟩ (by decide) (by decide)
  refine ⟨plain.2.1 (by decide), hnot, ?_⟩
  refine hnever Range.all "a" 0 [⟨"a", 1, .script, "中"⟩, ⟨"a", 1, .script, "\x7b\x7d"⟩] ?_
    ⟨"a", 1, .script, "中"⟩ List.mem_cons_self
  rw [read_eq_ok_iff]
  exact ⟨[⟨1, "'中'".toList⟩, ⟨8, "'\x7b\x7d'".toList⟩], by decide +kernel, by decide +kernel⟩

end Script

end Glean
