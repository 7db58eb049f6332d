import Glean.Proofs.DataGaps
import Glean.Script.Grammar

set_option autoImplicit false

/-!
# Reading data as a script

What the parsers of scripts do on the text of a value. Every value is an expression, a reading stops
right behind it, and the strings in it are the literals that are found.
-/
namespace Glean.Script

/-- A cursor in a plain script of which nothing is known ahead. -/
abbrev Cursor.fresh (rest : List Char) (o : Nat) (ls : List Literal) : Cursor :=
  ⟨.plain, rest, o, none, ls⟩

/-- A cursor in a plain script in front of a token. -/
abbrev Cursor.ready (rest : List Char) (o : Nat) (ls : List Literal) : Cursor :=
  ⟨.plain, rest, o, some .token, ls⟩

namespace Parser

section

variable {α β σ : Type}

theorem run_bind (p : Parser α) (f : α → Parser β) (c : Cursor) :
    (p >>= f).run c = (p.run c).bind fun r => (f r.1).run r.2 := by
  change (Parser.bind p f).run c = _
  rw [Parser.bind]
  dsimp only
  cases p.run c <;> rfl

theorem run_bind_some {p : Parser α} {c d : Cursor} {a : α} (h : p.run c = some (a, d))
    (f : α → Parser β) : (p >>= f).run c = (f a).run d := by
  rw [run_bind, h, Option.bind_some]

theorem run_bind_none {p : Parser α} {c : Cursor} (h : p.run c = none) (f : α → Parser β) :
    (p >>= f).run c = none := by
  rw [run_bind, h, Option.bind_none]

theorem run_orElse_some {p q : Parser α} {c : Cursor} {r : α × Cursor} (h : p.run c = some r) :
    (p <|> q).run c = some r := by
  change (orElse p fun _ => q).run c = _
  rw [orElse]
  dsimp only
  rw [h]

theorem run_orElse_none {p q : Parser α} {c : Cursor} (h : p.run c = none) :
    (p <|> q).run c = q.run c := by
  change (orElse p fun _ => q).run c = _
  rw [orElse]
  dsimp only
  rw [h]

theorem iterateFrom_of_le (step : σ → Parser (σ × Bool)) (n m : Nat) (hm : n ≤ m) (s : σ)
    (c : Cursor) (r : σ × Cursor) (h : iterateFrom step n s c = some r) :
    iterateFrom step m s c = some r := by
  induction n generalizing m s c with
  | zero => contradiction
  | succ n ih =>
    cases m with
    | zero => contradiction
    | succ m =>
      unfold iterateFrom at h ⊢
      split at h
      · exact ih m (Nat.le_of_succ_le_succ hm) _ _ h
      · exact h
      · contradiction

theorem run_iterate_last {step : σ → Parser (σ × Bool)} {s t : σ} {c d : Cursor}
    (h : (step s).run c = some ((t, false), d)) : (iterate step s).run c = some (t, d) := by
  simp only [iterate, iterateFrom, h]

theorem run_iterate_more {step : σ → Parser (σ × Bool)} {s t : σ} {c d : Cursor} {r : σ × Cursor}
    (h : (step s).run c = some ((t, true), d)) (hd : d.rest.length < c.rest.length)
    (hr : (iterate step t).run d = some r) : (iterate step s).run c = some r := by
  simp only [iterate, iterateFrom, h]
  exact iterateFrom_of_le step _ _ (Nat.succ_le_succ hd) t d r hr

theorem run_many_last {p : Parser Unit} {c : Cursor} (h : p.run c = none) :
    (many p).run c = some ((), c) := by
  apply run_iterate_last
  rw [run_orElse_none (run_bind_none h _)]
  rfl

theorem run_many_more {p : Parser Unit} {c d e : Cursor} (h : p.run c = some ((), d))
    (hd : d.rest.length < c.rest.length) (hr : (many p).run d = some ((), e)) :
    (many p).run c = some ((), e) := by
  have hbind : (p >>= fun _ => (return ((), true) : Parser (Unit × Bool))).run c =
      some (((), true), d) := by
    rw [run_bind_some h]
    rfl
  exact run_iterate_more (run_orElse_some hbind) hd hr

end

open Data

section

variable {α β : Type} (g : Gap) (rest : List Char) (o : Nat) (ls : List Literal)

theorem run_next_fresh (f : Follow) (n : Nat) (ahead : Ahead)
    (h : gap .plain f (rest.length + 1) rest = (n, ahead)) :
    (next f).run (.fresh rest o ls) =
      some (ahead, ⟨.plain, rest.drop n, o + byteSize (rest.take n), some ahead, ls⟩) := by
  have hcursor : cursor.run (.fresh rest o ls) = some (.fresh rest o ls, .fresh rest o ls) := rfl
  rw [next, run_bind_some hcursor]
  dsimp only
  rw [h]
  cases n with
  | zero => rfl
  | succ n => rfl

theorem run_next_append (f : Follow) (hf : f.semicolon = false) (hrest : BeginsToken rest) :
    (next f).run (.fresh (g.text ++ rest) o ls) =
      some (.token, .ready rest (o + byteSize g.text) ls) := by
  have h := run_next_fresh (g.text ++ rest) o ls f _ _ (g.gap_append f hf rest hrest _)
  rwa [List.drop_left, List.take_left] at h

theorem run_next_end (f : Follow) (hf : f.semicolon = true) :
    (next f).run (.fresh g.text o ls) =
      some (.semicolon, ⟨.plain, g.text, o, some .semicolon, ls⟩) :=
  run_next_fresh g.text o ls f _ _ (g.gap_end f hf _)

/-- Whether a parser begins with passing over a gap. -/
def PassesGap (p : Parser α) : Prop :=
  ∀ (g : Gap) (rest : List Char) (o : Nat) (ls : List Literal), BeginsToken rest →
    p.run (.fresh (g.text ++ rest) o ls) = p.run (.ready rest (o + byteSize g.text) ls)

theorem PassesGap.bind {p : Parser α} (h : PassesGap p) (f : α → Parser β) :
    PassesGap (p >>= f) := by
  intro g rest o ls hrest
  rw [run_bind, run_bind, h g rest o ls hrest]

theorem PassesGap.run_fresh {p : Parser α} (h : PassesGap p) (hrest : BeginsToken rest) :
    p.run (.fresh rest o ls) = p.run (.ready rest o ls) :=
  h .empty rest o ls hrest

theorem passesGap_upcoming : PassesGap upcoming := by
  intro g rest o ls hrest
  have h := run_next_append g rest o ls {} rfl hrest
  rw [upcoming, run_bind_some h]
  rfl

end

/-- What follows a value of data: a sign of the list that it is an item of, or the end of the text,
where a statement ends. -/
inductive Follows : Place → List Char → List Char → Ahead → Prop
  | sign (g : Gap) (q : Char) (hq : q = ',' ∨ q = ']' ∨ q = '\x7d') (text : List Char) :
    Follows {} g.text (q :: text) .token
  | stop (g : Gap) : Follows statementPlace [] g.text .semicolon

namespace Follows

variable {p : Place} {skipped rest : List Char} {a : Ahead} (h : Follows p skipped rest a)

include h

theorem isDelimited : IsDelimited (skipped ++ rest) := by
  have hblank : ∀ c, isBlank c = true → c ∈ delimiters := of_isBlank (by decide)
  intro c hc
  cases h with
  | sign g q hq text =>
    cases htext : g.text with
    | nil =>
      rw [htext] at hc
      obtain rfl := Option.some.inj hc
      rcases hq with rfl | rfl | rfl <;> decide
    | cons d gap =>
      rw [htext] at hc
      obtain rfl := Option.some.inj hc
      exact hblank d (g.blank d (htext ▸ List.mem_cons_self))
  | stop g => exact hblank c (g.blank c (List.mem_of_mem_head? hc))

variable (o : Nat) (ls : List Literal)

theorem run_behind : (behind p).run (.fresh (skipped ++ rest) o ls) =
    some (a, ⟨.plain, rest, o + byteSize skipped, some a, ls⟩) := by
  cases h with
  | sign g q hq text =>
    refine run_next_append g (q :: text) o ls _ rfl (beginsToken_cons q text ?_)
    rcases hq with rfl | rfl | rfl <;> decide
  | stop g => exact run_next_end g o ls _ rfl

/-- No value is assigned to what stands in front. -/
theorem assigns_eq_false : assigns rest = false := by
  cases h with
  | sign g q hq text => rcases hq with rfl | rfl | rfl <;> rfl
  | stop g =>
    cases htext : g.text with
    | nil => rfl
    | cons c gap =>
      rcases isBlank_cases c (g.blank c (htext ▸ List.mem_cons_self)) with
        rfl | rfl | rfl | rfl <;> rfl

end Follows

/-- A shape of which no more can become by a sign of assignment. -/
structure IsSettled (s : Shape) : Prop where
  expression : s.expression = true
  updatable : s.updatable = false
  enclosed : s.enclosed = false

theorem IsSettled.and {s e : Shape} (hs : IsSettled s) (he : IsSettled e) (target : Bool) :
    IsSettled { s with expression := s.expression && e.expression, target := target } := by
  refine ⟨?_, hs.updatable, hs.enclosed⟩
  rw [hs.expression, he.expression]
  rfl

theorem isSettled_primaryOnly : IsSettled .primaryOnly := ⟨rfl, rfl, rfl⟩

section

variable {parts : Parts} {p : Place} {skipped rest : List Char} {a : Ahead}
  (h : Follows p skipped rest a) {s : Shape} (c : Cursor) (o : Nat) (ls : List Literal)

include h

theorem run_operandTail (hs : IsSettled s) :
    (operandTail parts p s).run (.fresh (skipped ++ rest) o ls) =
      some (s, ⟨.plain, rest, o + byteSize skipped, some a, ls⟩) := by
  apply run_iterate_last
  rw [hs.expression, if_neg (by decide), run_bind_some (h.run_behind o ls)]
  cases h with
  | sign g q hq text => rcases hq with rfl | rfl | rfl <;> rfl
  | stop g => rfl

theorem run_target (hs : IsSettled s)
    (hp : (primary parts p).run c = some (s, .fresh (skipped ++ rest) o ls)) :
    (target parts p).run c = some (s, ⟨.plain, rest, o + byteSize skipped, some a, ls⟩) := by
  have hbehind : (behind p).run ⟨.plain, rest, o + byteSize skipped, some a, ls⟩ =
      some (a, ⟨.plain, rest, o + byteSize skipped, some a, ls⟩) := rfl
  rw [target, run_bind_some hp, run_bind_some (run_operandTail h o ls hs), run_bind_some hbehind]
  have hrest : Parser.rest.run ⟨.plain, rest, o + byteSize skipped, some a, ls⟩ =
      some (rest, ⟨.plain, rest, o + byteSize skipped, some a, ls⟩) := rfl
  rw [run_bind_some hrest]
  rw [hs.updatable, hs.enclosed, h.assigns_eq_false, Bool.and_false, if_neg (by decide)]
  rfl

theorem run_expression (hs : IsSettled s)
    (hp : (operand parts p).run c = some (s, ⟨.plain, rest, o, some a, ls⟩)) :
    (expression parts p).run c = some (s, ⟨.plain, rest, o, some a, ls⟩) := by
  rw [expression, run_bind_some hp]
  apply run_iterate_last
  rw [hs.expression, if_neg (by decide)]
  cases h with
  | sign g q hq text => rcases hq with rfl | rfl | rfl <;> rfl
  | stop g => rfl

end

theorem run_pass (text rest : List Char) (o : Nat) (a : Option Ahead) (ls : List Literal) :
    (pass text.length).run ⟨.plain, text ++ rest, o, a, ls⟩ =
      some ((), .fresh rest (o + byteSize text) ls) := by
  change some ((), (⟨.plain, (text ++ rest).drop text.length,
    o + byteSize ((text ++ rest).take text.length), none, ls⟩ : Cursor)) = _
  rw [List.drop_left, List.take_left]

section

variable (rest : List Char) (o : Nat) (ls : List Literal)

theorem run_upcoming : upcoming.run (.ready rest o ls) = some (rest, .ready rest o ls) := rfl

theorem run_string (s : Quoted) : string.run (.ready (s.text ++ rest) o ls) =
    some ((), .fresh rest (o + byteSize s.text) (⟨o, s.text⟩ :: ls)) := by
  have hlength : Measure.string.length .plain (s.text ++ rest) = s.text.length :=
    s.stringLength_append rest
  have hpos : 0 < s.text.length := Nat.succ_pos _
  rw [string, nextLiteral, run_bind_some (run_upcoming _ o ls), passLiteral]
  dsimp only [Cursor.ready]
  rw [hlength, if_pos hpos, Cursor.record, Cursor.pass, List.take_left, List.drop_left]

theorem run_number (n : Number) (h : IsDelimited rest) :
    number.run (.ready (n.magnitude ++ rest) o ls) =
      some ((), .fresh rest (o + byteSize n.magnitude) ls) := by
  rw [number, run_bind_some (run_upcoming _ o ls), n.numberLength_append rest h]
  dsimp only
  have hrequire : (require (decide (0 < n.magnitude.length))).run
      (.ready (n.magnitude ++ rest) o ls) = some ((), .ready (n.magnitude ++ rest) o ls) := rfl
  rw [run_bind_some hrequire, run_pass]

theorem run_word (w : Word) (h : IsDelimited rest) :
    word.run (.ready (w.text ++ rest) o ls) = some (w.name, .ready (w.text ++ rest) o ls) := by
  rw [word, run_bind_some (run_upcoming _ o ls), wordLength_append w rest h, List.take_left,
    Word.text, String.ofList_toList]
  rfl

variable (parts : Parts) (p : Place)

theorem run_primary_string (s : Quoted) :
    (primary parts p).run (.ready (s.text ++ rest) o ls) =
      some (.primaryOnly, .fresh rest (o + byteSize s.text) (⟨o, s.text⟩ :: ls)) := by
  have hprimary : (primary parts p).run (.ready (s.text ++ rest) o ls) =
      (string >>= fun _ => return .primaryOnly).run (.ready (s.text ++ rest) o ls) := rfl
  rw [hprimary, run_bind_some (run_string rest o ls s)]
  rfl

theorem run_primary_number (n : Number) (h : IsDelimited rest) :
    (primary parts p).run (.ready (n.magnitude ++ rest) o ls) =
      some (.primaryOnly, .fresh rest (o + byteSize n.magnitude) ls) := by
  have hprimary : ∀ c ∈ digits, ∀ text, (primary parts p).run (.ready (c :: text) o ls) =
      (number >>= fun _ => return .primaryOnly).run (.ready (c :: text) o ls) := by
    intro c hc text
    simp only [digits, List.mem_cons, List.not_mem_nil, or_false] at hc
    rcases hc with rfl | rfl | rfl | rfl | rfl | rfl | rfl | rfl | rfl | rfl <;> rfl
  have hfirst := mem_digits _ (n.whole.digits _ List.mem_cons_self)
  have hnumber := run_bind_some (run_number rest o ls n h) fun _ => return Shape.primaryOnly
  exact (hprimary _ hfirst _).trans hnumber

theorem run_primary_word (w : Word) (h : IsDelimited rest) :
    (primary parts p).run (.ready (w.text ++ rest) o ls) =
      some (.primaryOnly, .fresh rest (o + byteSize w.text) ls) := by
  have hprimary : (primary parts p).run (.ready (w.text ++ rest) o ls) =
      (word >>= fun w => wordOperand parts p w).run (.ready (w.text ++ rest) o ls) := by
    cases w <;> rfl
  rw [hprimary, run_bind_some (run_word rest o ls w h)]
  cases w <;> rfl

/-- An operand without an operator in front. -/
theorem run_operand_of_word (text : List Char) (c : Char) (w : String)
    (hhead : text.head? = some c) (hc : "+-!~".toList.contains c = false)
    (hword : word.run (.ready text o ls) = some (w, .ready text o ls))
    (hw : w ∉ ["typeof", "void", "delete", "await", "yield"]) :
    (operand parts p).run (.ready text o ls) = (target parts p).run (.ready text o ls) := by
  have hwords : ["typeof", "void", "delete", "await"].contains w = false := by
    simp_all
  have hyield : w ≠ "yield" := by
    simp_all
  have hdialect : dialect.run (.ready text o ls) = some (.plain, .ready text o ls) := rfl
  rw [operand, run_bind_some (run_upcoming _ o ls)]
  split
  · obtain rfl := Option.some.inj hhead
    contradiction
  · obtain rfl := Option.some.inj hhead
    contradiction
  · obtain rfl := Option.some.inj hhead
    rw [hc, if_neg (by decide), run_bind_some hword, hwords, if_neg (by decide), if_neg hyield,
      run_bind_some hdialect, Dialect.hasTypes, Bool.and_false, if_neg (by decide)]
  · contradiction

theorem run_operand_cons (c : Char) (hc : c ∈ '"' :: '[' :: '\x7b' :: digits) (text : List Char) :
    (operand parts p).run (.ready (c :: text) o ls) =
      (target parts p).run (.ready (c :: text) o ls) := by
  simp only [digits, List.mem_cons, List.not_mem_nil, or_false] at hc
  have hword : word.run (.ready (c :: text) o ls) = some ("", .ready (c :: text) o ls) := by
    rcases hc with rfl | rfl | rfl | rfl | rfl | rfl | rfl | rfl | rfl | rfl | rfl | rfl | rfl <;>
      rfl
  have hsign : "+-!~".toList.contains c = false := by
    rcases hc with rfl | rfl | rfl | rfl | rfl | rfl | rfl | rfl | rfl | rfl | rfl | rfl | rfl <;>
      rfl
  exact run_operand_of_word o ls parts p _ c "" rfl hsign hword (by decide)

theorem run_operand_word (w : Word) (h : IsDelimited rest) :
    (operand parts p).run (.ready (w.text ++ rest) o ls) =
      (target parts p).run (.ready (w.text ++ rest) o ls) := by
  have hword := run_word rest o ls w h
  have hhead : ∃ c ∈ ['t', 'f', 'n'], (w.text ++ rest).head? = some c := by
    cases w with
    | true => exact ⟨'t', by decide, rfl⟩
    | false => exact ⟨'f', by decide, rfl⟩
    | null => exact ⟨'n', by decide, rfl⟩
  obtain ⟨c, hc, hhead⟩ := hhead
  have hall : ∀ c ∈ ['t', 'f', 'n'], "+-!~".toList.contains c = false :=
    forall_mem_of_all (by decide)
  refine run_operand_of_word o ls parts p _ c w.name hhead (hall c hc) hword ?_
  cases w <;> decide

theorem run_operand_minus (text : List Char) (hdigit : ∃ c, c.isDigit = true ∧ text.head? = some c)
    (s : Shape) (hs : s.expression = true) (d : Cursor)
    (h : (parts (.operand p)).run (.fresh text (o + 1) ls) = some (s, d)) :
    (operand parts p).run (.ready ('-' :: text) o ls) = some (.plain, d) := by
  obtain ⟨c, hc, hhead⟩ := hdigit
  rw [operand, run_bind_some (run_upcoming _ o ls)]
  split
  · rename_i heq
    exact absurd (List.cons.inj heq).1 (by decide)
  · rename_i heq
    rw [(List.cons.inj heq).2] at hhead
    obtain rfl := Option.some.inj hhead
    contradiction
  · rename_i heq
    obtain ⟨rfl, rfl⟩ := List.cons.inj heq
    have hpass := run_pass ['-'] text o (some .token) ls
    rw [if_pos (by decide)]
    refine (run_bind_some hpass _).trans ((run_bind_some h _).trans ?_)
    rw [hs]
    rfl
  · contradiction

end

end Parser

end Glean.Script
