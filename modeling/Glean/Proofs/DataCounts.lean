import Glean.Proofs.DataText
import Glean.Proofs.ImportVisibility

set_option autoImplicit false

/-!
# Counting a letter

A reading finds no letter twice. In data, the letter that calls begin with stands in strings alone,
and a call that is replaced takes one along.
-/
namespace Glean

theorem ImportCall.count_image (call : List Char) (h : IsCall call) :
    (Segment.call call).image.count 'i' < call.count 'i' := by
  have hnone : 'i' ∉ (Segment.call call).image := by
    intro hm
    exact absurd (isFiller_of_mem_image call 'i' hm) (by decide)
  rw [List.count_eq_zero_of_not_mem hnone]
  obtain ⟨inside, rfl, -, -⟩ := h
  rw [List.count_append]
  have hopening : opening.count 'i' = 1 := by decide
  omega

theorem ImportCall.count_neutralize_le (text : List Char) :
    (neutralize text).count 'i' ≤ text.count 'i' := by
  induction text using segments_induction with
  | nil => exact Nat.le_refl _
  | call call rest hc ih =>
    have hcall := count_image call hc
    rw [neutralize_call call rest hc, List.count_append, List.count_append]
    omega
  | kept c rest hl ih =>
    rw [neutralize_kept c rest hl, List.count_cons, List.count_cons]
    omega

theorem ImportCall.count_neutralize_lt (text : List Char) (h : occursIn text = true) :
    (neutralize text).count 'i' < text.count 'i' := by
  induction text using segments_induction with
  | nil => contradiction
  | call call rest hc ih =>
    have hcall := count_image call hc
    have hrest := count_neutralize_le rest
    rw [neutralize_call call rest hc, List.count_append, List.count_append]
    omega
  | kept c rest hl ih =>
    rw [occursIn_kept c rest hl] at h
    have hrest := ih h
    rw [neutralize_kept c rest hl, List.count_cons, List.count_cons]
    omega

namespace Script

theorem Literal.count_body_le (t : Literal) (x : Char) : t.body.count x ≤ t.text.count x := by
  obtain ⟨front, back, htext⟩ := t.exists_around_body
  have hcount := congrArg (List.count x) htext
  simp only [List.count_append] at hcount
  omega

/-- How often a character occurs in what is left and in the literals passed. -/
def Cursor.count (c : Cursor) (x : Char) : Nat :=
  c.rest.count x + (c.literals.flatMap (·.body)).count x

theorem Cursor.Reaches.count_le {c d : Cursor} (h : c.Reaches d) (x : Char) :
    d.count x ≤ c.count x := by
  induction h with
  | pass c n =>
    have hsplit := congrArg (List.count x) (List.take_append_drop n c.rest)
    rw [List.count_append] at hsplit
    simp only [Cursor.count, Cursor.pass]
    omega
  | record c n hl =>
    have hsplit := congrArg (List.count x) (List.take_append_drop n c.rest)
    have hbody : (Literal.body ⟨c.offset, c.rest.take n⟩).count x ≤ (c.rest.take n).count x :=
      Literal.count_body_le ⟨c.offset, c.rest.take n⟩ x
    rw [List.count_append] at hsplit
    simp only [Cursor.count, Cursor.pass, Cursor.record, List.flatMap_cons, List.count_append]
    omega
  | notice c ahead => exact Nat.le_refl _
  | trans _ _ first second => exact Nat.le_trans second first

theorem count_literals?_le (d : Dialect) (text : List Char) (tokens : List Literal)
    (h : literals? d text = some tokens) (x : Char) :
    (tokens.flatMap (·.body)).count x ≤ text.count x := by
  unfold literals? at h
  obtain ⟨⟨s, c⟩, hrun, rfl⟩ := Option.map_eq_some_iff.mp h
  have hcount := ((Parser.script _).reaches _ _ _ hrun).count_le x
  have hreverse := (c.literals.reverse_perm.flatMap_right (·.body)).count_eq x
  simp only [Cursor.count, List.flatMap_nil, List.count_nil, Nat.add_zero] at hcount
  dsimp only
  omega

end Script

namespace Data

theorem Gap.count_text (g : Gap) : g.text.count 'i' = 0 := by
  refine List.count_eq_zero_of_not_mem fun h => ?_
  exact absurd (g.blank _ h) (by decide)

theorem Digits.count_text (d : Digits) : d.text.count 'i' = 0 := by
  refine List.count_eq_zero_of_not_mem fun h => ?_
  exact absurd (d.digits _ h) (by decide)

theorem Exponent.count_text (e : Exponent) : e.text.count 'i' = 0 := by
  have hmark : e.mark ≠ 'i' := by
    rcases e.isMark with h | h <;> rw [h] <;> decide
  have hsign : e.sign.count 'i' = 0 := by
    rcases e.isSign with h | h | h <;> rw [h] <;> rfl
  rw [Exponent.text, List.count_cons_of_ne hmark, List.count_append, hsign, e.digits.count_text]

theorem Number.count_text (n : Number) : n.text.count 'i' = 0 := by
  have hfraction : n.fractionText.count 'i' = 0 := by
    unfold fractionText
    cases n.fraction with
    | none => rfl
    | some d => rw [List.count_cons_of_ne (by decide), d.count_text]
  have hexponent : n.exponentText.count 'i' = 0 := by
    unfold exponentText
    cases n.exponent with
    | none => rfl
    | some e => exact e.count_text
  have hmagnitude : n.magnitude.count 'i' = 0 := by
    rw [magnitude, List.count_append, List.count_append, n.whole.count_text, hfraction, hexponent]
  rw [text]
  split
  · rw [List.count_cons_of_ne (by decide), hmagnitude]
  · exact hmagnitude

theorem Quoted.count_text (s : Quoted) : s.text.count 'i' = s.body.count 'i' := by
  simp [Quoted.text]

/-- How often the letter occurs in some strings. -/
def letters (strings : List Standing) : Nat := (strings.flatMap (·.string.body)).count 'i'

theorem letters_append (first second : List Standing) :
    letters (first ++ second) = letters first + letters second := by
  simp only [letters, List.flatMap_append, List.count_append]

theorem Label.count_text {k : Kind} (label : Label k) (o : Nat) :
    label.text.count 'i' = letters (label.strings o) := by
  cases label with
  | none => rfl
  | name s behind after =>
    simp [Label.text, Label.strings, letters, s.count_text, behind.count_text, after.count_text]

mutual

theorem Value.count_text (v : Value) (o : Nat) : v.text.count 'i' = letters (v.strings o) := by
  match v with
  | .word w => cases w <;> rfl
  | .number n => exact n.count_text
  | .string s => simp [Value.text, Value.strings, letters, s.count_text]
  | .empty k gap =>
    cases k <;>
      simp [Value.text, Value.strings, letters, gap.count_text, Kind.opening, Kind.closing]
  | .list k items =>
    have h := items.count_text (o + k.opening.utf8Size)
    cases k <;> simp [Value.text, Value.strings, h, Kind.opening, Kind.closing]

theorem Items.count_text {k : Kind} (items : Items k) (o : Nat) :
    items.text.count 'i' = letters (items.strings o) := by
  match items with
  | .last before label v behind =>
    simp [Items.text, Items.strings, letters_append, before.count_text, behind.count_text,
      ← label.count_text, ← v.count_text]
  | .more before label v behind others =>
    simp [Items.text, Items.strings, letters_append, before.count_text, behind.count_text,
      ← label.count_text, ← v.count_text, ← others.count_text, Nat.add_assoc]

end

theorem Document.count_text (d : Document) : d.text.count 'i' = letters d.strings := by
  rw [Document.text, Document.strings, List.count_append, List.count_append, d.before.count_text,
    d.behind.count_text, ← d.value.count_text, Nat.zero_add, Nat.add_zero]

end Data

end Glean
