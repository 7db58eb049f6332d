import Glean.Proofs.Lines
import Glean.Proofs.Utf8

set_option autoImplicit false

/-!
# The index of lines and the scan for line feeds

A line feed is one byte, and that byte is in the UTF-8 form of no other character. So the lines of a
text are those of its bytes, wherever an offset lies, and the index, which holds the places behind
the line feeds in order, has the same answer by bisection.
-/
namespace Glean

namespace Lines

theorem count_take_utf8EncodeChar (c : Char) (n : Nat) (hn : 0 < n) :
    ((String.utf8EncodeChar c).take n).count 0x0A = if c = '\n' then 1 else 0 := by
  by_cases hc : c = '\n'
  · subst hc
    rw [if_pos rfl, Text.utf8EncodeChar_lineFeed, List.take_of_length_le hn]
    rfl
  · rw [if_neg hc, List.count_eq_zero]
    exact fun hmem => Text.lineFeed_not_mem_utf8EncodeChar c hc (List.mem_of_mem_take hmem)

/-- The line feeds before an offset are counted alike in a text and in its bytes. -/
theorem breaks_takeBytes (text : List Char) (offset : Nat) :
    breaks (takeBytes offset text) =
      ((text.flatMap String.utf8EncodeChar).take offset).count 0x0A := by
  induction text generalizing offset with
  | nil => rw [takeBytes_nil, List.flatMap_nil, List.take_nil]; rfl
  | cons c text ih =>
    by_cases h : offset = 0
    · subst h
      rw [takeBytes_zero, List.take_zero]
      rfl
    · rw [takeBytes_cons offset c text (by omega), breaks_cons, List.flatMap_cons,
        List.take_append, List.count_append, count_take_utf8EncodeChar c offset (by omega),
        String.length_utf8EncodeChar, ih]
      omega

/-- The places where a line starts are those behind a line feed. -/
theorem mem_startsFrom_iff (text : List Char) (offset start : Nat) :
    start ∈ startsFrom offset text ↔
      ∃ front back, text = front ++ '\n' :: back ∧ start = offset + byteSize front + 1 := by
  induction text generalizing offset with
  | nil => simp [startsFrom]
  | cons c text ih =>
    have htail : (∃ front back, text = front ++ '\n' :: back ∧
          start = offset + c.utf8Size + byteSize front + 1) ↔
        ∃ front back, c :: text = c :: front ++ '\n' :: back ∧
          start = offset + byteSize (c :: front) + 1 := by
      simp only [List.cons_append, List.cons.injEq, true_and, byteSize_cons, Nat.add_assoc]
    have hcons : (∃ front back, c :: text = front ++ '\n' :: back ∧
          start = offset + byteSize front + 1) ↔
        (c = '\n' ∧ start = offset + 1) ∨ start ∈ startsFrom (offset + c.utf8Size) text := by
      rw [ih, htail]
      constructor
      · rintro ⟨front, back, heq, hstart⟩
        cases front with
        | nil => exact .inl ⟨(List.cons.inj heq).1, hstart⟩
        | cons d front =>
          obtain ⟨rfl, -⟩ := List.cons.inj heq
          exact .inr ⟨front, back, heq, hstart⟩
      · rintro (⟨rfl, hstart⟩ | ⟨front, back, heq, hstart⟩)
        · exact ⟨[], text, rfl, hstart⟩
        · exact ⟨c :: front, back, heq, hstart⟩
    rw [hcons, startsFrom]
    by_cases hc : c = '\n'
    · subst hc
      rw [if_pos rfl, List.mem_cons]
      exact ⟨fun h => h.imp_left fun h => ⟨rfl, h⟩, fun h => h.imp_left And.right⟩
    · rw [if_neg hc]
      exact ⟨.inr, fun h => h.resolve_left fun hn => hc hn.1⟩

/-- The index of a text holds the places behind its line feeds in strictly ascending order, so the
bisection parts them at the offset, and for every offset the answer is that of the scan, which
counts the line feeds among the bytes in front. -/
theorem Index.lineAt_eq_scan (text : List Char) (offset : Nat) :
    (ofText text).starts.toList.Pairwise (· < ·) ∧
      (∀ start, start ∈ (ofText text).starts ↔
        ∃ front back, text = front ++ '\n' :: back ∧ start = byteSize front + 1) ∧
      (∀ i (h : i < (ofText text).starts.size),
        (ofText text).starts[i] ≤ min offset (ofText text).size ↔
          i + 1 < (ofText text).lineAt offset) ∧
      (ofText text).lineAt offset = Lines.lineAt text offset ∧
      Lines.lineAt text offset =
        ((String.ofList text).toUTF8.toList.take offset).count 0x0A + 1 := by
  refine ⟨pairwise_startsFrom text 0, ?_, ?_, lineAt_ofText text offset, ?_⟩
  · intro start
    change start ∈ (startsFrom 0 text).toArray ↔ _
    rw [List.mem_toArray, mem_startsFrom_iff]
    simp only [Nat.zero_add]
  · intro i h
    rw [(bisecting_ofText text offset).le_iff i h]
    omega
  · rw [Lines.lineAt, Text.toList_toUTF8, breaks_takeBytes]

/-- Line feeds alone, behind a return and behind characters of several bytes; the offsets lie inside
a character, on a line feed and far behind the end. -/
example :
    let text := "中\r\n\r文\n".toList
    (Index.ofText text).starts = #[5, 10] ∧
      [1, 4, 5, 7, 9, 10, 2 ^ 64 - 1].map (Index.ofText text).lineAt = [1, 1, 2, 2, 2, 3, 3] := by
  decide +kernel

end Lines

end Glean
