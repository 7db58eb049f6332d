import Glean.Proofs.Literals
import Mathlib.Data.List.Induction

set_option autoImplicit false

/-!
# Where literals are found

A place is told by a row and a column in bytes, both counted from 0, as they are kept while a text
is passed character by character. The row begins behind as many line feeds, and the column leads on
to the literal. Literals do not overlap, and they come in the order in which they stand.
-/
namespace Glean

namespace Lines

/-- What stands between the line feeds of a text. -/
def rows (text : List Char) : List (List Char) := text.splitOnP (· = '\n')

/-- The offset of the first byte of a row: behind all rows before it and their line feeds. -/
def rowStart (text : List Char) (row : Nat) : Nat :=
  byteSize (((rows text).take row).flatMap (· ++ ['\n']))

theorem rows_append_break (front back : List Char) :
    rows (front ++ '\n' :: back) = rows front ++ rows back :=
  List.splitOnP_append_cons front back (by simp)

theorem rows_break (text : List Char) : rows ('\n' :: text) = [] :: rows text :=
  rows_append_break [] text

theorem rows_cons (c : Char) (text : List Char) (h : c ≠ '\n') :
    ∃ row others, rows text = row :: others ∧ rows (c :: text) = (c :: row) :: others := by
  obtain ⟨row, others, hrows⟩ :=
    List.exists_cons_of_ne_nil (List.splitOnP_ne_nil (fun c => decide (c = '\n')) text)
  refine ⟨row, others, hrows, ?_⟩
  rw [rows, List.splitOnP_cons_eq_if_modifyHead, if_neg (by simpa using h), hrows,
    List.modifyHead_cons]

theorem length_rows (text : List Char) : (rows text).length = breaks text + 1 := by
  induction text with
  | nil => rfl
  | cons c text ih =>
    by_cases h : c = '\n'
    · subst h
      rw [rows_break, List.length_cons, ih, breaks_cons, if_pos rfl]
    · obtain ⟨row, others, htext, hcons⟩ := rows_cons c text h
      rw [htext, List.length_cons] at ih
      rw [breaks_cons, if_neg h, hcons, List.length_cons, ih]

/-- Rows with a line feed behind each are the text with one more behind it. -/
theorem flatMap_rows (text : List Char) :
    (rows text).flatMap (· ++ ['\n']) = text ++ ['\n'] := by
  induction text with
  | nil => rfl
  | cons c text ih =>
    by_cases h : c = '\n'
    · subst h
      rw [rows_break, List.flatMap_cons, ih]
      rfl
    · obtain ⟨row, others, htext, hcons⟩ := rows_cons c text h
      rw [htext, List.flatMap_cons] at ih
      rw [hcons, List.flatMap_cons, List.cons_append, List.cons_append, List.cons_append, ih]

theorem rowStart_behind_break (front back : List Char) :
    rowStart (front ++ '\n' :: back) (breaks front + 1) = byteSize front + 1 := by
  rw [rowStart, rows_append_break, ← length_rows, List.take_left, flatMap_rows, byteSize_append]
  rfl

namespace Place

/-- The place behind a character. -/
def pass (p : Place) (c : Char) : Place :=
  if c = '\n' then ⟨p.row + 1, 0⟩ else ⟨p.row, p.column + c.utf8Size⟩

/-- The place behind a text, passed character by character. -/
def behind (text : List Char) : Place := text.foldl pass ⟨0, 0⟩

end Place

theorem placeAt_append (before behind : List Char) :
    placeAt (before ++ behind) (byteSize before) =
      ⟨breaks before, byteSize (before.reverse.takeWhile (· ≠ '\n'))⟩ := by
  rw [placeAt, lineAt_append, columnAt, takeBytes_byteSize_append, Nat.add_sub_cancel]

/-- What is kept on the way is what counting finds. -/
theorem behind_eq (text : List Char) :
    Place.behind text = ⟨breaks text, byteSize (text.reverse.takeWhile (· ≠ '\n'))⟩ := by
  -- The character passed last is the one that both sides look at.
  induction text using List.reverseRecOn with
  | nil => rfl
  | append_singleton text c ih =>
    rw [Place.behind, List.foldl_append, ← Place.behind, ih, List.foldl_cons, List.foldl_nil,
      Place.pass, breaks_append, List.reverse_append, List.reverse_singleton,
      List.singleton_append]
    by_cases h : c = '\n'
    · rw [if_pos h, List.takeWhile_cons_of_neg (by simpa using h), breaks_cons, if_pos h]
      rfl
    · rw [if_neg h, List.takeWhile_cons_of_pos (by simpa using h), breaks_cons, if_neg h,
        byteSize_cons, Nat.add_comm c.utf8Size]
      rfl

theorem byteSize_reverse (text : List Char) : byteSize text.reverse = byteSize text := by
  induction text with
  | nil => rfl
  | cons c text ih =>
    rw [List.reverse_cons, byteSize_append, ih, byteSize_cons, byteSize_cons, byteSize_nil,
      Nat.add_zero, Nat.add_comm]

theorem breaks_of_not_mem (text : List Char) (h : '\n' ∉ text) : breaks text = 0 :=
  List.count_eq_zero.mpr h

/-- What stands behind the last line feed is all that the column counts. -/
theorem byteSize_takeWhile (row rest : List Char) (h : '\n' ∉ row) :
    byteSize ((row.reverse ++ rest).takeWhile (· ≠ '\n')) =
      byteSize row + byteSize (rest.takeWhile (· ≠ '\n')) := by
  rw [takeWhile_reverse_append row rest '\n' h, byteSize_append, byteSize_reverse]

/-- A row and the column in it add up to what was passed. -/
theorem rowStart_add_column (before behind : List Char) :
    rowStart (before ++ behind) (breaks before) + byteSize (before.reverse.takeWhile (· ≠ '\n')) =
      byteSize before := by
  -- The row begins behind the last line feed, or with the text where there is none.
  by_cases hmem : '\n' ∈ before
  · obtain ⟨front, row, rfl, hrow⟩ := exists_last_cut before '\n' hmem
    have hbreaks : breaks (front ++ '\n' :: row) = breaks front + 1 := by
      rw [breaks_append, breaks_cons, breaks_of_not_mem row hrow, if_pos rfl]
    have hstart := rowStart_behind_break front (row ++ behind)
    have hcolumn := byteSize_takeWhile row ('\n' :: front.reverse) hrow
    rw [List.takeWhile_cons_of_neg (by simp), byteSize_nil] at hcolumn
    have hreverse : (front ++ '\n' :: row).reverse = row.reverse ++ '\n' :: front.reverse := by simp
    rw [hbreaks, hreverse, hcolumn, List.append_assoc, List.cons_append, hstart, byteSize_append,
      byteSize_cons]
    change byteSize front + 1 + byteSize row = byteSize front + (1 + byteSize row)
    omega
  · have hcolumn := byteSize_takeWhile before [] hmem
    rw [List.append_nil] at hcolumn
    rw [hcolumn, breaks_of_not_mem before hmem]
    exact Nat.zero_add _

/-- The byte that a place in a text leads to. -/
def Place.offset (p : Place) (text : List Char) : Nat := rowStart text p.row + p.column

/-- A place leads to what stands there: to a character boundary with that text behind it, on the
line that is counted there. -/
structure Place.Locates (p : Place) (text lexeme : List Char) : Prop where
  row_lt : p.row < (rows text).length
  stands : ∃ before behind, text = before ++ (lexeme ++ behind) ∧
    p.offset text = byteSize before ∧ Place.behind before = p
  line_eq : p.row + 1 = lineAt text (p.offset text)

/-- The place of a byte leads to it. -/
theorem offset_placeAt (before behind : List Char) :
    (placeAt (before ++ behind) (byteSize before)).offset (before ++ behind) = byteSize before := by
  rw [placeAt_append]
  exact rowStart_add_column before behind

theorem locates_placeAt (before lexeme behind : List Char) :
    (placeAt (before ++ (lexeme ++ behind)) (byteSize before)).Locates
      (before ++ (lexeme ++ behind)) lexeme := by
  have hoffset := offset_placeAt before (lexeme ++ behind)
  have hplace := placeAt_append before (lexeme ++ behind)
  rw [hplace] at hoffset ⊢
  refine ⟨?_, ⟨before, behind, rfl, hoffset, behind_eq before⟩, ?_⟩
  · rw [length_rows, breaks_append]
    change breaks before < _
    omega
  · rw [hoffset, lineAt_append]

end Lines

namespace Language

/-- Literals are found in the order in which they stand, none reaches into another, and the place of
each leads to it. -/
theorem located_of_literals? (l : Language) (code : List Char) (tokens : List Script.Literal)
    (h : l.literals? code = some tokens) :
    (tokens.Pairwise fun t u => t.start + byteSize t.text ≤ u.start ∧ t.start < u.start) ∧
      ∀ t ∈ tokens, (t.place code).offset code = t.start ∧ (t.place code).Locates code t.text := by
  have hstands := l.standsIn_of_literals? code tokens h
  constructor
  · refine (l.apart_of_literals? code tokens h).imp_of_mem ?_
    intro t u ht _ hle
    -- A literal begins with a character, so the next one begins at least one byte later.
    obtain ⟨q, rest, htext, _⟩ := Script.exists_first l.dialect t.text (hstands t ht).2
    have hsize := Char.utf8Size_pos q
    refine ⟨hle, ?_⟩
    rw [htext, byteSize_cons] at hle
    omega
  · intro t ht
    obtain ⟨⟨before, behind, hcode, hstart⟩, _⟩ := hstands t ht
    rw [Script.Literal.place, hstart, hcode]
    exact ⟨Lines.offset_placeAt before (t.text ++ behind),
      Lines.locates_placeAt before t.text behind⟩

theorem located_of_literals?_broken_lines :
    let code := "/*é*/ let x: string = '中\\\n', y = `\r\n`,\r\n z = \"a\"".toList
    let tokens : List Script.Literal :=
      [⟨14, "string".toList⟩, ⟨23, "'中\\\n'".toList⟩, ⟨48, "\"a\"".toList⟩]
    Language.tsx.literals? code = some tokens ∧
      (tokens.map (·.place code)) = [⟨0, 14⟩, ⟨0, 23⟩, ⟨3, 5⟩] ∧
      Lines.Place.Locates ⟨3, 5⟩ code "\"a\"".toList := by
  intro code tokens
  have htokens : Language.tsx.literals? code = some tokens := by decide +kernel
  have hplaces : (tokens.map (·.place code)) = [⟨0, 14⟩, ⟨0, 23⟩, ⟨3, 5⟩] := by
    decide +kernel
  refine ⟨htokens, hplaces, ?_⟩
  have hlast := (located_of_literals? .tsx code tokens htokens).2 _
    (List.mem_cons_of_mem _ (List.mem_cons_of_mem _ (List.mem_singleton_self _)))
  have hplace : Lines.placeAt code 48 = ⟨3, 5⟩ := by decide +kernel
  rw [← hplace]
  exact hlast.2

end Language

end Glean
