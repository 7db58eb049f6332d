import Glean.Proofs.ReadBack
import Glean.Report.Csv

set_option autoImplicit false

/-!
# Reading comma separated reports

A reader that goes through a report once, character by character. Whatever is written between
quotes, it stays inside the field until a quote stands alone.
-/
namespace Glean.Csv

inductive Field
  | text (t : List Char)
  | number (n : Nat)
  deriving DecidableEq, Repr

/-- What a reader knows of the field it is in. -/
inductive Mode
  | start
  | number (n : Nat)
  | quoted (t : List Char)
  | closing (t : List Char)
  deriving DecidableEq, Repr

/-- A reader with the rows and the fields that it has passed. -/
structure Reader where
  rows : List (List Field) := []
  fields : List Field := []
  mode : Mode := .start
  deriving DecidableEq, Repr

namespace Reader

def behind (s : Reader) (field : Field) (c : Char) : Option Reader :=
  if c = ',' then some ⟨s.rows, s.fields ++ [field], .start⟩
  else if c = '\n' then some ⟨s.rows ++ [s.fields ++ [field]], [], .start⟩
  else none

def step (s : Reader) (c : Char) : Option Reader :=
  match s.mode with
  | .start =>
    if c = '"' then some { s with mode := .quoted [] }
    else if c.isDigit then some { s with mode := .number (Nat.ofDigitChars 10 [c] 0) }
    else none
  | .number n =>
    if c.isDigit then some { s with mode := .number (Nat.ofDigitChars 10 [c] n) }
    else s.behind (.number n) c
  | .quoted t =>
    if c = '"' then some { s with mode := .closing t }
    else some { s with mode := .quoted (t ++ [c]) }
  | .closing t =>
    if c = '"' then some { s with mode := .quoted (t ++ ['"']) }
    else s.behind (.text t) c

def run (s : Reader) (text : List Char) : Option Reader := text.foldlM step s

def stop (s : Reader) : Option (List (List Field)) :=
  match s.mode with
  | .number n => some (s.rows ++ [s.fields ++ [.number n]])
  | .closing t => some (s.rows ++ [s.fields ++ [.text t]])
  | _ => none

end Reader

def readRows (text : List Char) : Option (List (List Field)) :=
  (Reader.run {} text).bind Reader.stop

def recordOf? : List Field → Option Record
  | [.text file, .number line, .text source, .text text] =>
    (Source.ofName? (String.ofList source)).map fun s =>
      ⟨String.ofList file, line, s, String.ofList text⟩
  | _ => none

def labelFields : List Field := Record.labels.map fun label => .text label.toList

/-- The records of a report. -/
def decode (text : List Char) : Option (List Record) :=
  match readRows text with
  | some (first :: rows) => if first = labelFields then rows.mapM recordOf? else none
  | _ => none

def Field.written : Field → List Char
  | .text t => quote t
  | .number n => Nat.toDigits 10 n

/-- What a reader knows behind a field. -/
def Field.read : Field → Mode
  | .text t => .closing t
  | .number n => .number n

def writtenRow (row : List Field) : List Char := join (row.map Field.written)

def writtenRows (rows : List (List Field)) : List Char :=
  rows.flatMap fun row => '\n' :: writtenRow row

def fieldsOf (r : Record) : List Field :=
  [.text r.file.toList, .number r.line, .text r.source.name.toList, .text r.text.toList]

namespace Reader

theorem run_nil (s : Reader) : s.run [] = some s := rfl

theorem run_cons (s : Reader) (c : Char) (text : List Char) :
    s.run (c :: text) = (s.step c).bind (·.run text) := rfl

theorem run_append (s : Reader) (first second : List Char) :
    s.run (first ++ second) = (s.run first).bind (·.run second) := by
  rw [run, List.foldlM_append]
  rfl

variable (rows : List (List Field)) (fields : List Field)

/-- Inside of quotes a doubled text is taken as it was, whatever it is. -/
theorem run_double (t field : List Char) :
    run ⟨rows, fields, .quoted t⟩ (double field) = some ⟨rows, fields, .quoted (t ++ field)⟩ := by
  induction field generalizing t with
  | nil => rw [double, run_nil, List.append_nil]
  | cons c field ih =>
    have hsplit : t ++ c :: field = t ++ [c] ++ field := by
      rw [List.append_assoc, List.singleton_append]
    rw [hsplit, ← ih (t ++ [c]), double]
    by_cases hc : c = '"'
    · subst hc
      -- The second quote brings the reader back inside the field.
      rw [if_pos rfl, run_cons]
      rfl
    · rw [if_neg hc, run_cons, step]
      dsimp only
      rw [if_neg hc]
      rfl

theorem run_quote (t : List Char) :
    run ⟨rows, fields, .start⟩ (quote t) = some ⟨rows, fields, .closing t⟩ := by
  have hopen : step ⟨rows, fields, .start⟩ '"' = some ⟨rows, fields, .quoted []⟩ := rfl
  rw [quote, run_cons, hopen, Option.bind_some, run_append, run_double, List.nil_append]
  rfl

theorem run_digits (n : Nat) (digits : List Char) (h : ∀ c ∈ digits, c.isDigit = true) :
    run ⟨rows, fields, .number n⟩ digits =
      some ⟨rows, fields, .number (Nat.ofDigitChars 10 digits n)⟩ := by
  induction digits generalizing n with
  | nil => rfl
  | cons c digits ih =>
    have hc : c.isDigit = true := h c List.mem_cons_self
    have hstep : step ⟨rows, fields, .number n⟩ c =
        some ⟨rows, fields, .number (Nat.ofDigitChars 10 [c] n)⟩ := by
      rw [step]
      dsimp only
      rw [if_pos hc]
    rw [run_cons, hstep, Option.bind_some, ih _ fun d hd => h d (List.mem_cons_of_mem c hd),
      ← Nat.ofDigitChars_append, List.singleton_append]

theorem run_number (n : Nat) :
    run ⟨rows, fields, .start⟩ (Nat.toDigits 10 n) = some ⟨rows, fields, .number n⟩ := by
  have hdigits : ∀ c ∈ Nat.toDigits 10 n, c.isDigit = true := by
    intro c hc
    exact Nat.isDigit_of_mem_toDigits (by decide) (by decide) hc
  have hvalue : Nat.ofDigitChars 10 (Nat.toDigits 10 n) 0 = n := Nat.ofDigitChars_ten_toDigits
  cases hd : Nat.toDigits 10 n with
  | nil => exact absurd hd Nat.toDigits_ne_nil
  | cons c digits =>
    rw [hd] at hdigits hvalue
    have hc : c.isDigit = true := hdigits c List.mem_cons_self
    have hquote : c ≠ '"' := by
      rintro rfl
      exact absurd hc (by decide)
    have hstep : step ⟨rows, fields, .start⟩ c =
        some ⟨rows, fields, .number (Nat.ofDigitChars 10 [c] 0)⟩ := by
      rw [step]
      dsimp only
      rw [if_neg hquote, if_pos hc]
    rw [run_cons, hstep, Option.bind_some,
      run_digits rows fields _ digits fun d hd => hdigits d (List.mem_cons_of_mem c hd),
      ← Nat.ofDigitChars_append, List.singleton_append, hvalue]

theorem run_written (f : Field) :
    run ⟨rows, fields, .start⟩ f.written = some ⟨rows, fields, f.read⟩ := by
  cases f with
  | text t => exact run_quote rows fields t
  | number n => exact run_number rows fields n

theorem step_comma (f : Field) :
    step ⟨rows, fields, f.read⟩ ',' = some ⟨rows, fields ++ [f], .start⟩ := by
  cases f with
  | text t => rfl
  | number n => rfl

theorem step_break (f : Field) :
    step ⟨rows, fields, f.read⟩ '\n' = some ⟨rows ++ [fields ++ [f]], [], .start⟩ := by
  cases f with
  | text t => rfl
  | number n => rfl

theorem stop_read (f : Field) :
    stop ⟨rows, fields, f.read⟩ = some (rows ++ [fields ++ [f]]) := by
  cases f with
  | text t => rfl
  | number n => rfl

theorem run_row (row : List Field) (last : Field) :
    run ⟨rows, fields, .start⟩ (writtenRow (row ++ [last])) =
      some ⟨rows, fields ++ row, last.read⟩ := by
  induction row generalizing fields with
  | nil => rw [List.nil_append, List.append_nil]; exact run_written rows fields last
  | cons f row ih =>
    have hjoin : writtenRow (f :: row ++ [last]) =
        f.written ++ ',' :: writtenRow (row ++ [last]) := by
      cases row with
      | nil => rfl
      | cons g row => rfl
    rw [hjoin, run_append, run_written, Option.bind_some, run_cons, step_comma, Option.bind_some,
      ih, List.append_assoc, List.singleton_append]

theorem exists_last (row : List Field) (h : row ≠ []) : ∃ front last, row = front ++ [last] :=
  ⟨_, _, (List.dropLast_concat_getLast h).symm⟩

/-- Behind a field the reader goes through all rows that follow. -/
theorem stop_run_rows (f : Field) (more : List (List Field)) (h : ∀ row ∈ more, row ≠ []) :
    (run ⟨rows, fields, f.read⟩ (writtenRows more)).bind stop =
      some (rows ++ (fields ++ [f]) :: more) := by
  induction more generalizing rows fields f with
  | nil =>
    change stop ⟨rows, fields, f.read⟩ = _
    rw [stop_read]
  | cons row more ih =>
    obtain ⟨front, last, rfl⟩ := exists_last row (h row List.mem_cons_self)
    have hmore : ∀ row ∈ more, row ≠ [] := fun row hr => h row (List.mem_cons_of_mem _ hr)
    have hwritten : writtenRows ((front ++ [last]) :: more) =
        '\n' :: (writtenRow (front ++ [last]) ++ writtenRows more) := rfl
    rw [hwritten, run_cons, step_break, Option.bind_some, run_append, run_row, Option.bind_some,
      ih _ _ _ hmore, List.nil_append, List.append_assoc, List.singleton_append]

end Reader

/-- Every table is read back. -/
theorem readRows_written (first : List Field) (more : List (List Field)) (hfirst : first ≠ [])
    (hmore : ∀ row ∈ more, row ≠ []) :
    readRows (writtenRow first ++ writtenRows more) = some (first :: more) := by
  obtain ⟨front, last, rfl⟩ := Reader.exists_last first hfirst
  rw [readRows, Reader.run_append, Reader.run_row, Option.bind_some,
    Reader.stop_run_rows _ _ _ _ hmore]
  rfl

theorem encode_eq (records : List Record) :
    encode records = writtenRow labelFields ++ writtenRows (records.map fieldsOf) := by
  rw [encode, writtenRows, List.flatMap_map]
  rfl

theorem recordOf?_fieldsOf (r : Record) : recordOf? (fieldsOf r) = some r := by
  simp only [recordOf?, fieldsOf, String.ofList_toList, Source.ofName?_name, Option.map_some]

theorem decode_encode (records : List Record) : decode (encode records) = some records := by
  have hrows : readRows (encode records) = some (labelFields :: records.map fieldsOf) := by
    rw [encode_eq]
    apply readRows_written
    · decide
    · intro row hrow
      obtain ⟨r, -, rfl⟩ := List.mem_map.mp hrow
      exact List.cons_ne_nil _ _
  rw [decode, hrows]
  dsimp only
  rw [if_pos rfl, mapM_map_eq fieldsOf recordOf? recordOf?_fieldsOf]

end Glean.Csv
