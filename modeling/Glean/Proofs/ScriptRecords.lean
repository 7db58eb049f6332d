import Glean.Proofs.Lines
import Glean.Script.Fault

set_option autoImplicit false

/-!
# Records of a script

What a script gives if it can be read: a record for each of its literals in range, in order, with
the line that counting finds.
-/
namespace Glean.Script

def Literal.recordIn (file : String) (before : Nat) (text : List Char) (t : Literal) : Record :=
  ⟨file, Lines.lineAt text t.start + before, .script, String.ofList t.body⟩

/-- The records of literals that stand in a text. -/
def recordsOf (r : Range) (file : String) (before : Nat) (text : List Char)
    (tokens : List Literal) : List Record :=
  (tokens.filter fun t => r.test (String.ofList t.body)).map (·.recordIn file before text)

section

variable (r : Range) (l : Language) (file : String) (before : Nat) (code : List Char)

theorem filterMap_record? (text : List Char) (tokens : List Literal) :
    tokens.filterMap (·.record? r file before (Lines.Index.ofText text)) =
      recordsOf r file before text tokens := by
  induction tokens with
  | nil => rfl
  | cons t tokens ih =>
    by_cases ht : r.test (String.ofList t.body) = true
    · have hrecord : t.record? r file before (Lines.Index.ofText text) =
          some (t.recordIn file before text) := by
        simp only [Literal.record?, if_pos ht, Literal.recordIn, Lines.Index.lineAt_ofText]
      rw [List.filterMap_cons, hrecord, ih, recordsOf, recordsOf, List.filter_cons,
        if_pos ht, List.map_cons]
    · have hrecord : t.record? r file before (Lines.Index.ofText text) = none := by
        simp only [Literal.record?, if_neg ht]
      rw [List.filterMap_cons, hrecord, ih, recordsOf, recordsOf, List.filter_cons,
        if_neg ht]

theorem records?_eq :
    records? r l file before code =
      (l.literals? (ImportCall.neutralize code)).map
        (recordsOf r file before (ImportCall.neutralize code)) := by
  unfold records?
  dsimp only
  congr
  funext tokens
  rw [filterMap_record?]

theorem mem_recordsOf (text : List Char) (tokens : List Literal) (x : Record) :
    x ∈ recordsOf r file before text tokens ↔
      ∃ t ∈ tokens, r.test (String.ofList t.body) = true ∧ x = t.recordIn file before text := by
  rw [recordsOf, List.mem_map]
  constructor
  · rintro ⟨t, ht, rfl⟩
    obtain ⟨hmem, htest⟩ := List.mem_filter.mp ht
    exact ⟨t, hmem, htest, rfl⟩
  · rintro ⟨t, hmem, htest, rfl⟩
    exact ⟨t, List.mem_filter.mpr ⟨hmem, htest⟩, rfl⟩

theorem toOption_read : (read r l file before code).toOption = records? r l file before code := by
  unfold read
  split
  · rename_i records h
    rw [h]
    rfl
  · rename_i h
    rw [h]
    rfl

theorem isOk_read : (read r l file before code).isOk = (records? r l file before code).isSome := by
  unfold read
  split
  · rename_i records h
    rw [h]
    rfl
  · rename_i h
    rw [h]
    rfl

/-- A script that is read is well-formed once its calls are replaced, and gives the records of what
is then in it. -/
theorem read_eq_ok_iff (records : List Record) :
    read r l file before code = .ok records ↔
      ∃ tokens, l.literals? (ImportCall.neutralize code) = some tokens ∧
        records = recordsOf r file before (ImportCall.neutralize code) tokens := by
  have heq : read r l file before code = .ok records ↔
      records? r l file before code = some records := by
    unfold read
    split
    · rename_i found h
      rw [h, Except.ok.injEq, Option.some.injEq]
    · rename_i h
      rw [h]
      exact ⟨fun he => by contradiction, fun he => by contradiction⟩
  rw [heq, records?_eq, Option.map_eq_some_iff]
  constructor
  · rintro ⟨tokens, htokens, rfl⟩
    exact ⟨tokens, htokens, rfl⟩
  · rintro ⟨tokens, htokens, rfl⟩
    exact ⟨tokens, htokens, rfl⟩

theorem source_of_mem_records? (records : List Record)
    (h : records? r l file before code = some records) (x : Record) (hx : x ∈ records) :
    x.source = .script := by
  rw [records?_eq] at h
  obtain ⟨tokens, -, rfl⟩ := Option.map_eq_some_iff.mp h
  obtain ⟨t, -, -, rfl⟩ := (mem_recordsOf r file before _ tokens x).mp hx
  rfl

end

end Glean.Script
