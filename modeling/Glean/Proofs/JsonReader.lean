import Glean.Pattern.CharSet
import Glean.Proofs.ReadBack
import Glean.Report.Json
import Mathlib.Data.List.TakeDrop

set_option autoImplicit false

/-!
# Reading JSON

A reader for JSON: values with white space between their parts, strings with all their escapes, and
numbers as they are written. Records are objects that hold each of the four fields once. What a
report escapes or puts on a line of its own is read back as it was.
-/
namespace Glean.Json

inductive Value
  | null
  | boolean (b : Bool)
  | number (written : List Char)
  | text (t : List Char)
  | array (members : List Value)
  | object (members : List (List Char × Value))

def isSpace (c : Char) : Bool := c = ' ' || c = '\n' || c = '\r' || c = '\t'

def skip (text : List Char) : List Char := text.dropWhile isSpace

/-- Goes past a sign and the white space in front of it. -/
def sign? (c : Char) (text : List Char) : Option (List Char) :=
  match skip text with
  | d :: rest => if d = c then some rest else none
  | [] => none

def unit? : List Char → Option (Nat × List Char)
  | a :: b :: c :: d :: rest => do
    let a ← Unicode.hexValue? a
    let b ← Unicode.hexValue? b
    let c ← Unicode.hexValue? c
    let d ← Unicode.hexValue? d
    return (((a * 16 + b) * 16 + c) * 16 + d, rest)
  | _ => none

/-- The character behind `\u`. One beyond the first plane is spelled by two units. -/
def spelled? (text : List Char) : Option (Char × List Char) := do
  let (high, rest) ← unit? text
  if high < 0xD800 ∨ 0xE000 ≤ high then return (Char.ofNat high, rest)
  else
    match rest with
    | '\\' :: 'u' :: rest => do
      let (low, rest) ← unit? rest
      if high < 0xDC00 ∧ 0xDC00 ≤ low ∧ low < 0xE000 then
        return (Char.ofNat (0x10000 + (high - 0xD800) * 0x400 + (low - 0xDC00)), rest)
      else none
    | _ => none

def escaped? : List Char → Option (Char × List Char)
  | [] => none
  | c :: rest =>
    match c with
    | '"' => some ('"', rest)
    | '\\' => some ('\\', rest)
    | '/' => some ('/', rest)
    | 'b' => some ('\x08', rest)
    | 'f' => some ('\x0c', rest)
    | 'n' => some ('\n', rest)
    | 'r' => some ('\r', rest)
    | 't' => some ('\t', rest)
    | 'u' => spelled? rest
    | _ => none

def char? : List Char → Option (Char × List Char)
  | [] => none
  | c :: rest =>
    if c = '\\' then escaped? rest else if c.toNat < 0x20 then none else some (c, rest)

/-- The inside of a string of less than `n` characters, and what is behind its closing quote. -/
def inside? : Nat → List Char → Option (List Char × List Char)
  | 0, _ => none
  | n + 1, text =>
    if text.head? = some '"' then some ([], text.tail)
    else do
      let (c, rest) ← char? text
      let (t, rest) ← inside? n rest
      return (c :: t, rest)

def string? (text : List Char) : Option (List Char × List Char) := do
  let rest ← sign? '"' text
  inside? (rest.length + 1) rest

def lead (signs : List Char) : List Char → List Char × List Char
  | [] => ([], [])
  | c :: rest => if signs.contains c then ([c], rest) else ([], c :: rest)

def digits? (text : List Char) : Option (List Char × List Char) :=
  match text.span Char.isDigit with
  | ([], _) => none
  | (digits, rest) => some (digits, rest)

def fraction? : List Char → Option (List Char × List Char)
  | [] => some ([], [])
  | c :: rest =>
    if c = '.' then (digits? rest).map fun (digits, rest) => (c :: digits, rest)
    else some ([], c :: rest)

def exponent? : List Char → Option (List Char × List Char)
  | [] => some ([], [])
  | c :: rest =>
    if c = 'e' ∨ c = 'E' then
      let (sign, rest) := lead ['+', '-'] rest
      (digits? rest).map fun (digits, rest) => (c :: (sign ++ digits), rest)
    else some ([], c :: rest)

/-- A number: a sign, a whole part that begins with zero only if it is zero, a fraction and an
exponent. -/
def number? (text : List Char) : Option (List Char × List Char) := do
  let (minus, rest) := lead ['-'] text
  let (whole, rest) ← digits? rest
  if whole.head? = some '0' ∧ whole.length ≠ 1 then none
  else
    let (fraction, rest) ← fraction? rest
    let (exponent, rest) ← exponent? rest
    return (minus ++ whole ++ fraction ++ exponent, rest)

def word? (word : String) (text : List Char) : Option (List Char) :=
  if word.toList.isPrefixOf text then some (text.drop word.length) else none

mutual

/-- A value that is nested less than `n` deep and wide. -/
def value? : Nat → List Char → Option (Value × List Char)
  | 0, _ => none
  | n + 1, text =>
    match skip text with
    | [] => none
    | c :: rest =>
      match c with
      | '"' => (string? (c :: rest)).map fun (t, rest) => (.text t, rest)
      | '[' =>
        match sign? ']' rest with
        | some rest => some (.array [], rest)
        | none => (elements? n rest).map fun (vs, rest) => (.array vs, rest)
      | '\x7b' =>
        match sign? '\x7d' rest with
        | some rest => some (.object [], rest)
        | none => (members? n rest).map fun (ms, rest) => (.object ms, rest)
      | 't' => (word? "true" (c :: rest)).map fun rest => (.boolean true, rest)
      | 'f' => (word? "false" (c :: rest)).map fun rest => (.boolean false, rest)
      | 'n' => (word? "null" (c :: rest)).map fun rest => (.null, rest)
      | _ => (number? (c :: rest)).map fun (written, rest) => (.number written, rest)

def elements? : Nat → List Char → Option (List Value × List Char)
  | 0, _ => none
  | n + 1, text => do
    let (v, rest) ← value? n text
    match sign? ',' rest with
    | some rest => do
      let (vs, rest) ← elements? n rest
      return (v :: vs, rest)
    | none => return ([v], ← sign? ']' rest)

def members? : Nat → List Char → Option (List (List Char × Value) × List Char)
  | 0, _ => none
  | n + 1, text => do
    let (label, rest) ← string? text
    let rest ← sign? ':' rest
    let (v, rest) ← value? n rest
    match sign? ',' rest with
    | some rest => do
      let (ms, rest) ← members? n rest
      return ((label, v) :: ms, rest)
    | none => return ([(label, v)], ← sign? '\x7d' rest)

end

def read (text : List Char) : Option Value := do
  let (v, rest) ← value? (text.length + 1) text
  if skip rest = [] then some v else none

/-- The member of an object under a label that is there once. -/
def field? (members : List (List Char × Value)) (label : String) : Option Value :=
  match members.filter (String.ofList ·.1 = label) with
  | [m] => some m.2
  | _ => none

def Value.text? : Value → Option String
  | text t => some (String.ofList t)
  | _ => none

def Value.nat? : Value → Option Nat
  | number written =>
    if written.all Char.isDigit then some (Nat.ofDigitChars 10 written 0) else none
  | _ => none

def Value.record? : Value → Option Record
  | object members => do
    let file ← (← field? members "file name").text?
    let line ← (← field? members "line no").nat?
    let source ← Source.ofName? (← (← field? members "source type").text?)
    let text ← (← field? members "text").text?
    return { file, line, source, text }
  | _ => none

def decode (text : List Char) : Option (List Record) :=
  match read text with
  | some (.array members) => members.mapM Value.record?
  | _ => none

theorem skip_cons (c : Char) (rest : List Char) (h : isSpace c = false) :
    skip (c :: rest) = c :: rest :=
  List.dropWhile_cons_of_neg (by simp [h])

theorem skip_indent (indent : Nat) (rest : List Char) :
    skip ('\n' :: (List.replicate indent ' ' ++ rest)) = skip rest := by
  have hblanks : ∀ c ∈ List.replicate indent ' ', isSpace c = true := by
    intro c hc
    rw [(List.mem_replicate.mp hc).2]
    rfl
  rw [skip, List.dropWhile_cons_of_pos rfl, List.dropWhile_append_of_pos hblanks, skip]

theorem sign?_cons (c : Char) (rest : List Char) (h : isSpace c = false) :
    sign? c (c :: rest) = some rest := by
  simp [sign?, skip_cons c rest h]

theorem sign?_cons_ne (c d : Char) (rest : List Char) (h : isSpace d = false) (hne : d ≠ c) :
    sign? c (d :: rest) = none := by
  simp [sign?, skip_cons d rest h, hne]

theorem sign?_indent (c : Char) (indent : Nat) (rest : List Char) :
    sign? c ('\n' :: (List.replicate indent ' ' ++ rest)) = sign? c rest := by
  rw [sign?, skip_indent, sign?]

theorem hexValue?_digitChar (n : Nat) (h : n < 16) :
    Unicode.hexValue? n.digitChar = some n := by
  have hall : ∀ n < 16, Unicode.hexValue? (Nat.digitChar n) = some n := by decide
  exact hall n h

theorem unit?_hex4 (n : Nat) (h : n < 0x10000) (rest : List Char) :
    unit? (hex4 n ++ rest) = some (n, rest) := by
  have h1 := hexValue?_digitChar (n / 4096 % 16) (by omega)
  have h2 := hexValue?_digitChar (n / 256 % 16) (by omega)
  have h3 := hexValue?_digitChar (n / 16 % 16) (by omega)
  have h4 := hexValue?_digitChar (n % 16) (by omega)
  have hsum : ((n / 4096 % 16 * 16 + n / 256 % 16) * 16 + n / 16 % 16) * 16 + n % 16 = n := by
    omega
  simp [hex4, unit?, h1, h2, h3, h4, hsum]

/-- A character is read back from what it is escaped to, and what it is escaped to is no closing
quote. -/
theorem char?_escape (c : Char) (rest : List Char) :
    char? (escape c ++ rest) = some (c, rest) ∧ (escape c ++ rest).head? ≠ some '"' := by
  unfold escape
  split
  iterate 7 exact ⟨rfl, by simp⟩
  rename_i hquote hback _ _ _ _ _
  split
  · rename_i hc
    have hunit := unit?_hex4 c.toNat (by omega) rest
    have hlow : c.toNat < 0xD800 ∨ 0xE000 ≤ c.toNat := Or.inl (by omega)
    refine ⟨?_, by simp⟩
    simp [char?, escaped?, spelled?, hunit, hlow, Char.ofNat_toNat]
  · rename_i hc
    refine ⟨?_, ?_⟩
    · rw [List.singleton_append, char?, if_neg hback, if_neg hc]
    · simpa using hquote

theorem inside?_escaped (t rest : List Char) (n : Nat) (h : t.length < n) :
    inside? n (t.flatMap escape ++ '"' :: rest) = some (t, rest) := by
  induction t generalizing n with
  | nil =>
    obtain ⟨n, rfl⟩ : ∃ m, n = m + 1 := ⟨n - 1, by simp at h; omega⟩
    simp [inside?]
  | cons c t ih =>
    obtain ⟨n, rfl⟩ : ∃ m, n = m + 1 := ⟨n - 1, by simp at h; omega⟩
    have hn : t.length < n := by simpa using h
    obtain ⟨hread, hopen⟩ := char?_escape c (t.flatMap escape ++ '"' :: rest)
    rw [List.flatMap_cons, List.append_assoc, inside?, if_neg hopen, hread]
    simp [ih n hn]

theorem length_le_escaped (t : List Char) : t.length ≤ (t.flatMap escape).length := by
  induction t with
  | nil => simp
  | cons c t ih =>
    have hpos : 0 < (escape c).length := by
      unfold escape
      split <;> try exact Nat.succ_pos _
      split <;> exact Nat.succ_pos _
    simp only [List.flatMap_cons, List.length_cons, List.length_append]
    omega

theorem string?_quote (t rest : List Char) :
    string? (quote t ++ rest) = some (t, rest) := by
  have hlen := length_le_escaped t
  have hquote : quote t ++ rest = '"' :: (t.flatMap escape ++ '"' :: rest) := by simp [quote]
  rw [hquote, string?, sign?_cons _ _ (by decide), Option.bind_eq_bind, Option.bind_some,
    inside?_escaped]
  simp only [List.length_append, List.length_cons]
  omega

/-- No number goes on with what follows one in a report. -/
def EndsNumber (rest : List Char) : Prop :=
  ∃ c tail, rest = c :: tail ∧ c.isDigit = false ∧ c ≠ '.' ∧ c ≠ 'e' ∧ c ≠ 'E'

theorem head?_toDigits (n : Nat) (h : 0 < n) : (Nat.toDigits 10 n).head? ≠ some '0' := by
  induction n using Nat.strongRecOn with
  | ind n ih =>
    by_cases hn : n < 10
    · have hall : ∀ n < 10, 0 < n → (Nat.digitChar n) ≠ '0' := by decide
      rw [Nat.toDigits_of_lt_base hn]
      simpa using hall n hn h
    · have hfront := ih (n / 10) (by omega) (by omega)
      rw [Nat.toDigits_of_base_le (by omega) (by omega), List.head?_append]
      cases hd : (Nat.toDigits 10 (n / 10)).head? with
      | none => exact absurd (List.head?_eq_none_iff.mp hd) Nat.toDigits_ne_nil
      | some c =>
        rw [hd] at hfront
        exact hfront

theorem digits?_toDigits (n : Nat) (rest : List Char) (h : EndsNumber rest) :
    digits? (Nat.toDigits 10 n ++ rest) = some (Nat.toDigits 10 n, rest) := by
  obtain ⟨c, tail, rfl, hc, -⟩ := h
  have hdigits : ∀ c ∈ Nat.toDigits 10 n, c.isDigit = true := by
    intro c hc
    exact Nat.isDigit_of_mem_toDigits (by decide) (by decide) hc
  have hspan : (Nat.toDigits 10 n ++ c :: tail).span Char.isDigit =
      (Nat.toDigits 10 n, c :: tail) := by
    rw [List.span_eq_takeWhile_dropWhile, List.takeWhile_append_of_pos hdigits,
      List.dropWhile_append_of_pos hdigits, List.takeWhile_cons_of_neg (by simp [hc]),
      List.dropWhile_cons_of_neg (by simp [hc]), List.append_nil]
  rw [digits?, hspan]
  split
  · rename_i heq
    exact absurd (congrArg Prod.fst heq) Nat.toDigits_ne_nil
  · rename_i heq
    rw [heq]

theorem exists_digit (n : Nat) :
    ∃ c digits, Nat.toDigits 10 n = c :: digits ∧ c.isDigit = true := by
  obtain ⟨c, digits, hd⟩ := List.exists_cons_of_ne_nil (Nat.toDigits_ne_nil (b := 10) (n := n))
  exact ⟨c, digits, hd,
    Nat.isDigit_of_mem_toDigits (by decide) (by decide) (hd ▸ List.mem_cons_self)⟩

theorem lead_toDigits (n : Nat) (rest : List Char) :
    lead ['-'] (Nat.toDigits 10 n ++ rest) = ([], Nat.toDigits 10 n ++ rest) := by
  obtain ⟨c, digits, hd, hc⟩ := exists_digit n
  have hminus : c ≠ '-' := by
    rintro rfl
    exact absurd hc (by decide)
  simp [hd, lead, hminus]

theorem number?_toDigits (n : Nat) (rest : List Char) (h : EndsNumber rest) :
    number? (Nat.toDigits 10 n ++ rest) = some (Nat.toDigits 10 n, rest) := by
  have hdigits := digits?_toDigits n rest h
  have hzero : ¬((Nat.toDigits 10 n).head? = some '0' ∧ (Nat.toDigits 10 n).length ≠ 1) := by
    rintro ⟨hhead, hlen⟩
    rcases Nat.eq_zero_or_pos n with rfl | hn
    · exact hlen rfl
    · exact head?_toDigits n hn hhead
  obtain ⟨c, tail, rfl, -, hdot, he, hE⟩ := h
  have hfraction : fraction? (c :: tail) = some ([], c :: tail) := by simp [fraction?, hdot]
  have hexponent : exponent? (c :: tail) = some ([], c :: tail) := by simp [exponent?, he, hE]
  rw [number?, lead_toDigits]
  dsimp only
  rw [hdigits, Option.bind_eq_bind, Option.bind_some]
  dsimp only
  rw [if_neg hzero, hfraction, Option.bind_some]
  dsimp only
  rw [hexponent]
  simp

theorem skip_skip (text : List Char) : skip (skip text) = skip text := by
  induction text with
  | nil => rfl
  | cons c text ih =>
    by_cases h : isSpace c = true
    · have hc : skip (c :: text) = skip text := List.dropWhile_cons_of_pos h
      rw [hc, ih]
    · rw [skip_cons c text (Bool.eq_false_iff.mpr h), skip_cons c text (Bool.eq_false_iff.mpr h)]

theorem value?_skip (n : Nat) (text : List Char) : value? n (skip text) = value? n text := by
  cases n with
  | zero => rfl
  | succ n => rw [value?, value?, skip_skip]

theorem string?_skip (text : List Char) : string? (skip text) = string? text := by
  rw [string?, string?, sign?, skip_skip, sign?]

/-- A text that is read as a value by `n` calls or more, with whatever follows it in a report. -/
def Reads (n : Nat) (written : List Char) (v : Value) : Prop :=
  ∀ m rest, n ≤ m → EndsNumber rest → value? m (written ++ rest) = some (v, rest)

theorem reads_quote (t : List Char) : Reads 1 (quote t) (.text t) := by
  intro m rest hm hrest
  obtain ⟨m, rfl⟩ : ∃ n, m = n + 1 := ⟨m - 1, by omega⟩
  have hopen : skip (quote t ++ rest) = '"' :: (t.flatMap escape ++ ['"'] ++ rest) :=
    skip_cons _ _ (by decide)
  have hstring : string? ('"' :: (t.flatMap escape ++ ['"'] ++ rest)) = some (t, rest) :=
    string?_quote t rest
  rw [value?, hopen]
  dsimp only
  rw [hstring]
  rfl

theorem reads_toDigits (n : Nat) : Reads 1 (Nat.toDigits 10 n) (.number (Nat.toDigits 10 n)) := by
  intro m rest hm hrest
  obtain ⟨m, rfl⟩ : ∃ n, m = n + 1 := ⟨m - 1, by omega⟩
  have hnumber := number?_toDigits n rest hrest
  obtain ⟨c, digits, hd, hc⟩ := exists_digit n
  have hsolid : isSpace c = false := by
    rw [Bool.eq_false_iff]
    intro hspace
    simp only [isSpace, Bool.or_eq_true, decide_eq_true_eq] at hspace
    rcases hspace with ((rfl | rfl) | rfl) | rfl <;> exact absurd hc (by decide)
  rw [hd, List.cons_append] at hnumber ⊢
  rw [value?, skip_cons c _ hsolid]
  dsimp only
  -- No other value begins with a digit.
  split
  iterate 6 exact absurd hc (by decide)
  rw [hnumber]
  rfl

theorem endsNumber_comma (rest : List Char) : EndsNumber (',' :: rest) :=
  ⟨_, _, rfl, by decide⟩

theorem endsNumber_break (rest : List Char) : EndsNumber ('\n' :: rest) :=
  ⟨_, _, rfl, by decide⟩

section

variable (indent n : Nat) (rest : List Char)

theorem Reads.indented {n : Nat} {written : List Char} {v : Value} (h : Reads n written v)
    (m indent : Nat) (rest : List Char) (hm : n ≤ m) (hrest : EndsNumber rest) :
    value? m ('\n' :: (List.replicate indent ' ' ++ (written ++ rest))) = some (v, rest) := by
  rw [← value?_skip, skip_indent, value?_skip]
  exact h m rest hm hrest

theorem elements?_lines (ms : List (List Char × Value)) (hne : ms ≠ [])
    (h : ∀ m ∈ ms, Reads n m.1 m.2) (m : Nat) (hm : n + ms.length ≤ m) :
    elements? m (lines indent (ms.map (·.1)) ++ '\n' :: ']' :: rest) =
      some (ms.map (·.2), rest) := by
  induction ms generalizing m with
  | nil => contradiction
  | cons first ms ih =>
    obtain ⟨m, rfl⟩ : ∃ n, m = n + 1 := ⟨m - 1, by simp at hm; omega⟩
    have hfirst := h first List.mem_cons_self
    cases ms with
    | nil =>
      have hread := hfirst.indented m indent ('\n' :: ']' :: rest) (by simpa using hm)
        (endsNumber_break _)
      have htext : lines indent ([first].map (·.1)) ++ '\n' :: ']' :: rest =
          '\n' :: (List.replicate indent ' ' ++ (first.1 ++ '\n' :: ']' :: rest)) := by
        simp [lines]
      rw [htext, elements?, hread, Option.bind_eq_bind, Option.bind_some]
      rfl
    | cons second ms =>
      have hread := hfirst.indented m indent
        (',' :: (lines indent ((second :: ms).map (·.1)) ++ '\n' :: ']' :: rest))
        (by simp at hm; omega) (endsNumber_comma _)
      have hmore := ih (List.cons_ne_nil _ _) (fun m hm => h m (List.mem_cons_of_mem _ hm)) m
        (by simp at hm ⊢; omega)
      have htext : lines indent ((first :: second :: ms).map (·.1)) ++ '\n' :: ']' :: rest =
          '\n' :: (List.replicate indent ' ' ++ (first.1 ++
            ',' :: (lines indent ((second :: ms).map (·.1)) ++ '\n' :: ']' :: rest))) := by
        simp [lines]
      rw [htext, elements?, hread, Option.bind_eq_bind, Option.bind_some]
      dsimp only
      rw [sign?_cons _ _ (by decide)]
      dsimp only
      rw [hmore]
      rfl

theorem members?_lines (outer : Nat) (ms : List (String × List Char × Value)) (hne : ms ≠ [])
    (h : ∀ m ∈ ms, Reads n m.2.1 m.2.2) (m : Nat) (hm : n + ms.length ≤ m) :
    members? m (lines indent (ms.map fun m => member m.1 m.2.1) ++
        '\n' :: (List.replicate outer ' ' ++ '\x7d' :: rest)) =
      some (ms.map fun m => (m.1.toList, m.2.2), rest) := by
  induction ms generalizing m with
  | nil => contradiction
  | cons first ms ih =>
    obtain ⟨m, rfl⟩ : ∃ n, m = n + 1 := ⟨m - 1, by simp at hm; omega⟩
    have hfirst := h first List.mem_cons_self
    have hlabel (text : List Char) :
        string? ('\n' :: (List.replicate indent ' ' ++
          (quote first.1.toList ++ ':' :: ' ' :: text))) =
          some (first.1.toList, ':' :: ' ' :: text) := by
      rw [← string?_skip, skip_indent, string?_skip, string?_quote]
    have hvalue (tail : List Char) (htail : EndsNumber tail) :
        value? m (' ' :: (first.2.1 ++ tail)) = some (first.2.2, tail) := by
      have hspace : skip (' ' :: (first.2.1 ++ tail)) = skip (first.2.1 ++ tail) := rfl
      rw [← value?_skip, hspace, value?_skip]
      exact hfirst m tail (by simp at hm; omega) htail
    cases ms with
    | nil =>
      have htext : lines indent ([first].map fun m => member m.1 m.2.1) ++
            '\n' :: (List.replicate outer ' ' ++ '\x7d' :: rest) =
          '\n' :: (List.replicate indent ' ' ++ (quote first.1.toList ++ ':' :: ' ' ::
            (first.2.1 ++ '\n' :: (List.replicate outer ' ' ++ '\x7d' :: rest)))) := by
        simp [lines, member]
      have hcomma : sign? ',' ('\n' :: (List.replicate outer ' ' ++ '\x7d' :: rest)) = none := by
        rw [sign?_indent, sign?_cons_ne _ _ _ (by decide) (by decide)]
      have hclose :
          sign? '\x7d' ('\n' :: (List.replicate outer ' ' ++ '\x7d' :: rest)) = some rest := by
        rw [sign?_indent, sign?_cons _ _ (by decide)]
      rw [htext, members?, hlabel]
      simp only [Option.bind_eq_bind, Option.bind_some]
      rw [sign?_cons _ _ (by decide), Option.bind_some, hvalue _ (endsNumber_break _),
        Option.bind_some]
      dsimp only
      rw [hcomma, hclose]
      rfl
    | cons second ms =>
      have hmore := ih (List.cons_ne_nil _ _) (fun m hm => h m (List.mem_cons_of_mem _ hm)) m
        (by simp at hm ⊢; omega)
      have htext : lines indent ((first :: second :: ms).map fun m => member m.1 m.2.1) ++
            '\n' :: (List.replicate outer ' ' ++ '\x7d' :: rest) =
          '\n' :: (List.replicate indent ' ' ++ (quote first.1.toList ++ ':' :: ' ' ::
            (first.2.1 ++ ',' :: (lines indent ((second :: ms).map fun m => member m.1 m.2.1) ++
              '\n' :: (List.replicate outer ' ' ++ '\x7d' :: rest))))) := by
        simp [lines, member]
      rw [htext, members?, hlabel]
      simp only [Option.bind_eq_bind, Option.bind_some]
      rw [sign?_cons _ _ (by decide), Option.bind_some, hvalue _ (endsNumber_comma _),
        Option.bind_some]
      dsimp only
      rw [sign?_cons _ _ (by decide)]
      dsimp only
      rw [hmore]
      rfl

end

def membersOf (r : Record) : List (String × List Char × Value) :=
  [("file name", quote r.file.toList, .text r.file.toList),
    ("line no", Nat.toDigits 10 r.line, .number (Nat.toDigits 10 r.line)),
    ("source type", quote r.source.name.toList, .text r.source.name.toList),
    ("text", quote r.text.toList, .text r.text.toList)]

def valueOf (r : Record) : Value :=
  .object ((membersOf r).map fun m => (m.1.toList, m.2.2))

theorem object_eq (r : Record) :
    object r = '\x7b' :: (lines 4 ((membersOf r).map fun m => member m.1 m.2.1) ++
      ['\n', ' ', ' ', '\x7d']) := rfl

theorem reads_object (r : Record) : Reads 6 (object r) (valueOf r) := by
  intro m rest hm hrest
  obtain ⟨m, rfl⟩ : ∃ n, m = n + 1 := ⟨m - 1, by omega⟩
  have hreads : ∀ m ∈ membersOf r, Reads 1 m.2.1 m.2.2 := by
    simp only [membersOf, List.forall_mem_cons]
    exact ⟨reads_quote _, reads_toDigits _, reads_quote _, reads_quote _, by simp⟩
  have hmembers := members?_lines 4 1 rest 2 (membersOf r) (List.cons_ne_nil _ _) hreads m
    (by simp [membersOf]; omega)
  have htext : object r ++ rest =
      '\x7b' :: (lines 4 ((membersOf r).map fun m => member m.1 m.2.1) ++
        '\n' :: (List.replicate 2 ' ' ++ '\x7d' :: rest)) := by
    rw [object_eq, List.cons_append, List.append_assoc]
    rfl
  have hopen : sign? '\x7d' (lines 4 ((membersOf r).map fun m => member m.1 m.2.1) ++
      '\n' :: (List.replicate 2 ' ' ++ '\x7d' :: rest)) = none := rfl
  rw [htext, value?, skip_cons _ _ (by decide)]
  dsimp only
  rw [hopen]
  dsimp only
  rw [hmembers]
  rfl

theorem field?_membersOf (r : Record) (m : String × List Char × Value) (hm : m ∈ membersOf r) :
    field? ((membersOf r).map fun m => (m.1.toList, m.2.2)) m.1 = some m.2.2 := by
  simp only [membersOf, List.mem_cons, List.not_mem_nil, or_false] at hm
  rcases hm with rfl | rfl | rfl | rfl <;> simp [field?, membersOf]

theorem record?_valueOf (r : Record) : (valueOf r).record? = some r := by
  have hfields := field?_membersOf r
  simp only [membersOf, List.forall_mem_cons] at hfields
  obtain ⟨hfile, hline, hsource, htext, -⟩ := hfields
  have hdigits : (Nat.toDigits 10 r.line).all Char.isDigit = true :=
    List.all_eq_true.mpr fun c hc => Nat.isDigit_of_mem_toDigits (by decide) (by decide) hc
  have hnat : (Value.number (Nat.toDigits 10 r.line)).nat? = some r.line := by
    rw [Value.nat?, if_pos hdigits, Nat.ofDigitChars_ten_toDigits]
  rw [valueOf, membersOf, Value.record?, hfile, hline, hsource, htext]
  simp [hnat, Value.text?, Source.ofName?_name]

theorem length_le_lines (indent : Nat) (members : List (List Char)) :
    members.length + members.flatten.length ≤ (lines indent members).length := by
  induction members with
  | nil => simp [lines]
  | cons m members ih =>
    cases members with
    | nil => simp [lines]; omega
    | cons second members =>
      simp only [lines, List.length_cons, List.length_append, List.flatten_cons] at ih ⊢
      omega

theorem exists_lines (indent : Nat) (m : List Char) (members : List (List Char)) :
    ∃ tail, lines indent (m :: members) = '\n' :: (List.replicate indent ' ' ++ (m ++ tail)) := by
  cases members with
  | nil => exact ⟨[], by simp [lines]⟩
  | cons second members => exact ⟨',' :: lines indent (second :: members), by simp [lines]⟩

theorem length_object (r : Record) : 6 ≤ (object r).length := by
  have hlines := length_le_lines 4 ((membersOf r).map fun m => member m.1 m.2.1)
  simp only [object_eq, List.length_cons, List.length_append, membersOf, List.length_map,
    List.length_nil] at hlines ⊢
  omega

theorem read_encode (records : List Record) :
    read (encode records) = some (.array (records.map valueOf)) := by
  cases records with
  | nil => rfl
  | cons r records =>
    let written := (r :: records).map fun r => (object r, valueOf r)
    have hreads : ∀ m ∈ written, Reads 6 m.1 m.2 := by
      intro m hm
      obtain ⟨x, -, rfl⟩ := List.mem_map.mp hm
      exact reads_object x
    have hobjects : written.map (·.1) = (r :: records).map object := by
      simp [written, Function.comp_def]
    have hvalues : written.map (·.2) = (r :: records).map valueOf := by
      simp [written, Function.comp_def]
    have hlength : 6 + written.length ≤ (encode (r :: records)).length := by
      have hobject := length_object r
      have hlines := length_le_lines 2 ((r :: records).map object)
      simp only [encode, written, List.length_cons, List.length_append, List.length_map,
        List.map_cons, List.flatten_cons] at hlines ⊢
      omega
    have helements := elements?_lines 2 6 [] written (List.cons_ne_nil _ _) hreads
      (encode (r :: records)).length hlength
    rw [hobjects, hvalues] at helements
    have hempty : sign? ']' (lines 2 ((r :: records).map object) ++ ['\n', ']']) = none := by
      obtain ⟨tail, htail⟩ := exists_lines 2 (object r) (records.map object)
      rw [List.map_cons, htail, List.cons_append, List.append_assoc, sign?_indent]
      exact sign?_cons_ne _ _ _ (by decide) (by decide)
    have hopen : skip (encode (r :: records)) =
        '[' :: (lines 2 ((r :: records).map object) ++ ['\n', ']']) := rfl
    rw [read, value?, hopen]
    dsimp only
    rw [hempty]
    dsimp only
    rw [helements]
    rfl

theorem decode_encode (records : List Record) : decode (encode records) = some records := by
  rw [decode, read_encode]
  exact mapM_map_eq valueOf Value.record? record?_valueOf records

/-- Reports may be laid out in any way. -/
example :
    decode ("[\x7b\"text\":\"\\ud83d\\ude00\\/\",\"line no\" : 7,\r\n" ++
        "\t\"file name\":\"a\", \"source type\":\"markup\"\x7d ]").toList =
      some [⟨"a", 7, .markup, "😀/"⟩] := by decide +kernel

end Glean.Json
