import Glean.Proofs.IllFormedBytes
import Glean.Proofs.LineIndex
import Glean.Proofs.RecordOrder
import Glean.Proofs.TokenPlaces

set_option autoImplicit false

/-!
# Lines of a file and of its text

A line feed ends whatever was begun before it, so it is read as itself and what stands in front of
it is read as if it stood alone. The lines of the text are those of the file, each read by itself,
and a line number means the same in both.
-/
namespace Glean

namespace Text

/-! ### Line feeds among bytes -/

/-- A line feed is the whole form of a character, and in no other form. -/
theorem BeginsChar.eq_lineFeed {bytes : List UInt8} (h : BeginsChar bytes) (hmem : 0x0A ∈ bytes) :
    bytes = [0x0A] := by
  obtain ⟨c, hc⟩ := h
  have hbreak : c = '\n' := by
    by_contra hne
    exact lineFeed_not_mem_utf8EncodeChar c hne (hc.subset hmem)
  rw [hbreak, utf8EncodeChar_lineFeed] at hc
  exact hc.eq_of_length_le (List.length_pos_of_mem hmem)

theorem IllFormed.ne_nil {piece rest : List UInt8} (h : IllFormed piece rest) : piece ≠ [] := by
  rcases h.begins with hone | ⟨hne, -⟩
  · rintro rfl
    contradiction
  · exact hne

theorem IllFormed.lineFeed_not_mem {piece rest : List UInt8} (h : IllFormed piece rest) :
    0x0A ∉ piece := by
  intro hmem
  have hpiece : piece = [0x0A] := by
    rcases h.begins with hone | ⟨-, hbegins⟩
    · obtain ⟨b, rfl⟩ := List.length_eq_one_iff.mp hone
      rw [List.mem_singleton.mp hmem]
    · exact hbegins.eq_lineFeed hmem
  apply h.no_char '\n'
  rw [utf8EncodeChar_lineFeed, hpiece]
  exact List.prefix_append [0x0A] rest

theorem IllFormed.of_append {piece front back : List UInt8} (h : IllFormed piece (front ++ back)) :
    IllFormed piece front := by
  have hfront : piece ++ front <+: piece ++ (front ++ back) := by
    rw [← List.append_assoc]
    exact List.prefix_append _ back
  exact ⟨fun c hc => h.no_char c (hc.trans hfront), h.begins,
    fun more hmore => h.longest more (hmore.trans hfront)⟩

/-- What some bytes begin with ends in front of a line feed among them, or has one in it. -/
theorem prefix_or_mem (more front back : List UInt8) (h : more <+: front ++ 0x0A :: back) :
    more <+: front ∨ 0x0A ∈ more := by
  rcases List.prefix_or_prefix_of_prefix h (List.prefix_append front _) with hfront | ⟨tail, rfl⟩
  · exact .inl hfront
  · cases tail with
    | nil =>
      rw [List.append_nil]
      exact .inl List.prefix_rfl
    | cons b tail =>
      obtain ⟨behind, hbehind⟩ := h
      rw [List.append_assoc] at hbehind
      have hb : b = 0x0A := (List.cons.inj (List.append_cancel_left hbehind)).1
      exact .inr (by rw [hb]; simp)

/-- A line feed changes nothing in front of it. -/
theorem IllFormed.append_lineFeed {piece rest : List UInt8} (h : IllFormed piece rest)
    (back : List UInt8) : IllFormed piece (rest ++ 0x0A :: back) := by
  refine ⟨?_, h.begins, ?_⟩
  · intro c hc
    rw [← List.append_assoc] at hc
    rcases prefix_or_mem (String.utf8EncodeChar c) (piece ++ rest) back hc with hmore | hmem
    · exact h.no_char c hmore
    · rw [BeginsChar.eq_lineFeed ⟨c, List.prefix_rfl⟩ hmem] at hc
      obtain ⟨b, others, rfl⟩ := List.exists_cons_of_ne_nil h.ne_nil
      have hb : 0x0A = b := (List.cons_prefix_cons.mp hc).1
      exact h.lineFeed_not_mem (hb ▸ List.mem_cons_self)
  · intro more hmore hbegins
    rw [← List.append_assoc] at hmore
    rcases prefix_or_mem more (piece ++ rest) back hmore with hmore | hmem
    · exact h.longest more hmore hbegins
    · rw [hbegins.eq_lineFeed hmem]
      exact List.length_pos_of_ne_nil h.ne_nil

namespace ReadsAs

theorem append_lineFeed {front back : List UInt8} {text behind : List Char}
    (h : ReadsAs front text) (hback : ReadsAs back behind) :
    ReadsAs (front ++ 0x0A :: back) (text ++ '\n' :: behind) := by
  induction h with
  | nil =>
    have hbreak := char '\n' hback
    rwa [utf8EncodeChar_lineFeed] at hbreak
  | char c _ ih =>
    rw [List.append_assoc]
    exact char c ih
  | replaced hpiece _ ih =>
    rw [List.append_assoc]
    exact replaced (hpiece.append_lineFeed back) ih

/-- Where a text is cut, the bytes can be cut. -/
theorem exists_cut {bytes : List UInt8} {text : List Char} (h : ReadsAs bytes text)
    (front back : List Char) (htext : text = front ++ back) :
    ∃ before after, bytes = before ++ after ∧ ReadsAs before front ∧ ReadsAs after back := by
  induction h generalizing front with
  | nil =>
    obtain ⟨rfl, rfl⟩ := List.append_eq_nil_iff.mp htext.symm
    exact ⟨[], [], rfl, nil, nil⟩
  | char c hrest ih =>
    cases front with
    | nil =>
      rw [List.nil_append] at htext
      exact ⟨[], _, rfl, nil, htext ▸ char c hrest⟩
    | cons d front =>
      obtain ⟨rfl, htail⟩ := List.cons.inj htext
      obtain ⟨before, after, rfl, hbefore, hafter⟩ := ih front htail
      exact ⟨_, after, (List.append_assoc _ _ _).symm, char c hbefore, hafter⟩
  | replaced hpiece hrest ih =>
    cases front with
    | nil =>
      rw [List.nil_append] at htext
      exact ⟨[], _, rfl, nil, htext ▸ replaced hpiece hrest⟩
    | cons d front =>
      obtain ⟨rfl, htail⟩ := List.cons.inj htext
      obtain ⟨before, after, rfl, hbefore, hafter⟩ := ih front htail
      exact ⟨_, after, (List.append_assoc _ _ _).symm,
        replaced hpiece.of_append hbefore, hafter⟩

end ReadsAs

/-! ### Lines of a file -/

theorem count_utf8EncodeChar (c : Char) :
    (String.utf8EncodeChar c).count 0x0A = if c = '\n' then 1 else 0 := by
  have hpos : 0 < (String.utf8EncodeChar c).length := by
    rw [String.length_utf8EncodeChar]
    exact c.utf8Size_pos
  have h := Lines.count_take_utf8EncodeChar c _ hpos
  rwa [List.take_length] at h

theorem ReadsAs.breaks_eq {bytes : List UInt8} {text : List Char} (h : ReadsAs bytes text) :
    Lines.breaks text = bytes.count 0x0A := by
  induction h with
  | nil => rfl
  | char c _ ih => rw [Lines.breaks_cons, ih, List.count_append, count_utf8EncodeChar, Nat.add_comm]
  | replaced hpiece _ ih =>
    rw [Lines.breaks_cons, if_neg (by decide), ih, List.count_append,
      List.count_eq_zero.mpr hpiece.lineFeed_not_mem, Nat.zero_add, Nat.add_zero]

theorem readsAs_decode (bytes : List UInt8) : ReadsAs bytes (decode bytes) :=
  (readsAs_iff bytes _).mpr rfl

theorem breaks_decode (bytes : List UInt8) : Lines.breaks (decode bytes) = bytes.count 0x0A :=
  (readsAs_decode bytes).breaks_eq

theorem decode_append_lineFeed (front back : List UInt8) :
    decode (front ++ 0x0A :: back) = decode front ++ '\n' :: decode back := by
  have h := (readsAs_decode front).append_lineFeed (readsAs_decode back)
  exact ((readsAs_iff _ _).mp h).symm

/-- The lines are read one by one. -/
theorem rows_decode (bytes : List UInt8) :
    Lines.rows (decode bytes) = (bytes.splitOn 0x0A).map decode := by
  induction hn : bytes.length using Nat.strongRecOn generalizing bytes with
  | ind n ih =>
    by_cases hmem : 0x0A ∈ bytes
    · obtain ⟨front, back, rfl, -⟩ := List.eq_append_cons_of_mem hmem
      rw [List.length_append, List.length_cons] at hn
      rw [decode_append_lineFeed, Lines.rows_append_break, ih _ (by omega) front rfl,
        ih _ (by omega) back rfl, List.splitOn_append_cons_self, List.map_append]
    · have hbreak : '\n' ∉ decode bytes := by
        rw [← List.count_eq_zero]
        change Lines.breaks (decode bytes) = 0
        rw [breaks_decode, List.count_eq_zero]
        exact hmem
      rw [Lines.rows, List.splitOn_eq_singleton hmem, List.map_singleton]
      apply List.splitOnP_eq_singleton
      intro c hc
      exact decide_eq_false fun he => hbreak (he ▸ hc)

/-- A place between two characters of a text is one in the bytes, on the same line. -/
theorem exists_place (bytes : List UInt8) (offset : Nat) :
    ∃ before after, bytes = before ++ after ∧
      decode before = takeBytes offset (decode bytes) ∧
      decode bytes = decode before ++ decode after ∧
      Lines.lineAt (decode bytes) offset = before.count 0x0A + 1 := by
  obtain ⟨back, hback⟩ := takeBytes_isPrefix (decode bytes) offset
  obtain ⟨before, after, hsplit, hbefore, hafter⟩ :=
    (readsAs_decode bytes).exists_cut _ back hback.symm
  have hfront := (readsAs_iff _ _).mp hbefore
  refine ⟨before, after, hsplit, hfront.symm, ?_, ?_⟩
  · rw [← hfront, ← (readsAs_iff _ _).mp hafter, hback]
  · rw [Lines.lineAt, hbefore.breaks_eq]

/-- Nothing is lost if, and only if, the bytes are the form of some text. -/
theorem toUTF8_decode_iff (bytes : List UInt8) :
    (String.ofList (decode bytes)).toUTF8.toList = bytes ↔ bytes.toByteArray.IsValidUTF8 := by
  rw [toList_toUTF8]
  constructor
  · intro h
    exact ⟨decode bytes, by rw [List.utf8Encode, h]⟩
  · rintro ⟨text, htext⟩
    have hbytes := congrArg (·.data.toList) htext
    rw [List.utf8Encode] at hbytes
    simp only [List.toList_data_toByteArray] at hbytes
    rw [hbytes, decode_flatMap]

end Text

/-! ### Lines of records -/

theorem Script.line_le_of_mem_records? (r : Range) (l : Language) (file : String)
    (code : List Char) (records : List Record) (h : records? r l file 0 code = some records)
    (x : Record) (hx : x ∈ records) : x.line ≤ Lines.breaks code + 1 := by
  rw [records?_eq] at h
  obtain ⟨tokens, htokens, rfl⟩ := Option.map_eq_some_iff.mp h
  obtain ⟨t, ht, -, rfl⟩ := (mem_recordsOf r file 0 _ tokens x).mp hx
  obtain ⟨o, ho⟩ := exists_origin l code tokens htokens t ht
  rw [Literal.recordIn, ho.carried.lineAt_eq]
  exact Lines.lineAt_le_breaks code o

namespace Search

variable (s : Search)

theorem line_le_of_mem_readScript (file : String) (l : Language) (code : List Char) (x : Record)
    (hx : x ∈ (s.readScript file l code).records) : x.line ≤ Lines.breaks code + 1 := by
  rw [records_readScript] at hx
  cases h : Script.records? s.range l file 0 code with
  | none =>
    rw [h] at hx
    contradiction
  | some records =>
    rw [h] at hx
    exact Script.line_le_of_mem_records? s.range l file code records h x hx

theorem breaks_dropMark (text : List Char) :
    Lines.breaks (dropMark text) = Lines.breaks text := by
  cases text with
  | nil => rfl
  | cons c text =>
    rw [dropMark]
    split
    · rename_i h
      rw [Lines.breaks_cons, h, if_neg (by decide), Nat.add_zero]
    · rfl

theorem line_le_of_mem_outcome (file extension : String) (text : List Char) (x : Record)
    (hx : x ∈ (s.outcome file extension text).records) : x.line ≤ Lines.breaks text + 1 := by
  have hlead : Lines.breaks dataLead = 0 := by decide
  rw [← breaks_dropMark]
  simp only [outcome] at hx
  split at hx
  · exact s.line_le_of_mem_readScript file _ _ x hx
  · have h := s.line_le_of_mem_readScript file _ _ x hx
    rwa [Lines.breaks_append, hlead, Nat.zero_add] at h
  · have h := (Markup.inOrder_finds s.range file (dropMark text)).upper x hx
    exact Nat.le_trans h (Lines.lineAt_le_breaks _ _)

theorem visit_of_read (t : FileTree) (path : String) (bytes : List UInt8)
    (h : t.read? path = some bytes) : s.visit t path = s.visitText path (Text.decode bytes) := by
  rw [visit, visitText, h]

theorem line_of_mem_visitText (file : String) (text : List Char) (x : Record)
    (hx : x ∈ (s.visitText file text).records) : 0 < x.line ∧ x.line ≤ Lines.breaks text + 1 := by
  rw [visitText] at hx
  cases he : s.extension? file with
  | none =>
    rw [he] at hx
    contradiction
  | some extension =>
    rw [he] at hx
    exact ⟨(s.of_mem_outcome file extension text x hx).1,
      s.line_le_of_mem_outcome file extension text x hx⟩

end Search

/-- A line of a record is one of the file, and it is read by itself. -/
theorem exists_row_of_mem_visit (s : Search) (t : FileTree) (path : String) (bytes : List UInt8)
    (h : t.read? path = some bytes) (x : Record) (hx : x ∈ (s.visit t path).records) :
    0 < x.line ∧ ∃ row, (bytes.splitOn 0x0A)[x.line - 1]? = some row ∧
      (Lines.rows (Text.decode bytes))[x.line - 1]? = some (Text.decode row) := by
  rw [s.visit_of_read t path bytes h] at hx
  obtain ⟨hpos, hle⟩ := s.line_of_mem_visitText path _ x hx
  rw [← Lines.length_rows, Text.rows_decode, List.length_map] at hle
  refine ⟨hpos, (bytes.splitOn 0x0A)[x.line - 1], List.getElem?_eq_getElem (by omega), ?_⟩
  rw [Text.rows_decode, List.getElem?_map, List.getElem?_eq_getElem (by omega), Option.map_some]

namespace Text

/-- A file is read with the lines that it has: a line feed is read as itself and parts what is read
in front of it from what is read behind, every place between two characters is on the line on which
its bytes are, and every record is on a line of the file. What is no character is replaced piece by
piece, and nothing is lost if, and only if, the bytes are the form of a text. -/
theorem decode_keeps_lines (bytes : List UInt8) :
    (∀ front back, decode (front ++ 0x0A :: back) = decode front ++ '\n' :: decode back) ∧
    Lines.rows (decode bytes) = (bytes.splitOn 0x0A).map decode ∧
    Lines.breaks (decode bytes) = bytes.count 0x0A ∧
    (∀ offset, ∃ before after, bytes = before ++ after ∧
      decode before = takeBytes offset (decode bytes) ∧
      decode bytes = decode before ++ decode after ∧
      Lines.lineAt (decode bytes) offset = before.count 0x0A + 1) ∧
    (∀ text, ReadsAs bytes text ↔ text = decode bytes) ∧
    ((String.ofList (decode bytes)).toUTF8.toList = bytes ↔ bytes.toByteArray.IsValidUTF8) ∧
    ∀ (s : Search) (t : FileTree) (path : String), t.read? path = some bytes →
      s.visit t path = s.visitText path (decode bytes) ∧
      ∀ x ∈ (s.visit t path).records, 0 < x.line ∧
        ∃ row, (bytes.splitOn 0x0A)[x.line - 1]? = some row ∧
          (Lines.rows (decode bytes))[x.line - 1]? = some (decode row) := by
  refine ⟨decode_append_lineFeed, rows_decode bytes, breaks_decode bytes, exists_place bytes,
    readsAs_iff bytes, toUTF8_decode_iff bytes, ?_⟩
  intro s t path h
  exact ⟨s.visit_of_read t path bytes h, exists_row_of_mem_visit s t path bytes h⟩

/-- A character that a line feed cuts off, a surrogate, and a character that a comment's end cuts
off. -/
theorem decode_keeps_lines_broken_characters :
    let s : Search := ⟨⟨Range.default, .set (.range '\u4e00' '\u9fff')⟩, none, ["js"]⟩
    let bytes : List UInt8 := "/*".toUTF8.toList ++ [0xE4, 0xB8, 0x0A, 0xED, 0xA0, 0x80, 0x0A, 0xF0,
      0x9F, 0x98] ++ "*/ f('中')".toUTF8.toList
    let t : FileTree := { root := .folder [("a.js", .file bytes)] }
    let text := "/*\uFFFD\n\uFFFD\uFFFD\uFFFD\n\uFFFD*/ f('中')".toList
    t.read? "a.js" = some bytes ∧ decode bytes = text ∧
      Lines.rows text = (bytes.splitOn 0x0A).map decode ∧
      s.visit t "a.js" = s.visitText "a.js" text ∧
      (s.visit t "a.js").records = [⟨"a.js", 3, .script, "中"⟩] ∧
      ∃ row, (bytes.splitOn 0x0A)[2]? = some row ∧ (Lines.rows text)[2]? = some (decode row) := by
  intro s bytes t text
  have hread : t.read? "a.js" = some bytes := by decide +kernel
  have hdecode : decode bytes = text := by decide +kernel
  have hrecords : (s.visit t "a.js").records = [⟨"a.js", 3, .script, "中"⟩] := by decide +kernel
  obtain ⟨-, hrows, -, -, -, -, hvisits⟩ := decode_keeps_lines bytes
  obtain ⟨hvisit, hlines⟩ := hvisits s t "a.js" hread
  have hline := (hlines ⟨"a.js", 3, .script, "中"⟩ (by rw [hrecords]; exact List.mem_cons_self)).2
  rw [hdecode] at hrows hvisit hline
  exact ⟨hread, hdecode, hrows, hvisit, hrecords, hline⟩

end Text

end Glean
