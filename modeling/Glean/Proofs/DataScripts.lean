import Glean.Proofs.DataValues
import Glean.Search

set_option autoImplicit false

/-!
# Data as a script

Behind what is put in front of it, data is the value of a declaration, and the declaration is all of
the script. Its literals are the strings of the data.
-/
namespace Glean.Script.Parser

open Data

theorem passesGap_expression (parts : Parts) (p : Place) : PassesGap (expression parts p) :=
  (passesGap_operand parts p).bind _

/-- A declaration of a value. -/
abbrev declared (text : List Char) : List Char :=
  'v' :: 'a' :: 'r' :: ' ' :: 'a' :: ' ' :: '=' :: ' ' :: text

theorem run_anyStatement (parts : Parts) (c : Cursor) (hc : c.dialect = .plain) :
    (anyStatement parts).run c = (statement parts).run c := by
  have hdialect : dialect.run c = some (.plain, c) := by
    change some (c.dialect, c) = _
    rw [hc]
  rw [anyStatement, run_bind_some hdialect, Dialect.hasTypes, if_neg (by decide)]

section

variable (n : Nat) {c d : Cursor} (hc : c.dialect = .plain)

include hc

theorem run_body_some (h : (statement (ofGoal n)).run c = some ((), d)) :
    (body (ofGoal (n + 1))).run c = some ((), d) := by
  have hgoal : ofGoal (n + 1) .statement = step.plain (anyStatement (ofGoal n)) := rfl
  have hany := run_anyStatement (ofGoal n) c hc
  rw [body, hgoal, step.plain, run_bind_some (run_bind_some (hany.trans h) _)]
  rfl

theorem run_body_none (h : (statement (ofGoal n)).run c = none) :
    (body (ofGoal (n + 1))).run c = none := by
  have hgoal : ofGoal (n + 1) .statement = step.plain (anyStatement (ofGoal n)) := rfl
  have hany := run_anyStatement (ofGoal n) c hc
  rw [body, hgoal, step.plain, run_bind_none (run_bind_none (hany.trans h) _)]

end

section

variable (d : Document) (n : Nat) (hn : d.value.text.length ≤ n) (o : Nat) (ls : List Literal)

include hn

/-- The value of a declaration is read up to the place where the statement ends. -/
theorem run_value :
    (value (ofGoal n) statementPlace).run (.fresh (' ' :: d.text) o ls) =
      some ((), ⟨.plain, d.behind.text, o + 1 + byteSize d.before.text + byteSize d.value.text,
        some .semicolon, found (d.value.strings (o + 1 + byteSize d.before.text)) ls⟩) := by
  obtain ⟨c, -, text, htext, -⟩ := exists_head d.value
  obtain ⟨s, hs, hrun⟩ := reads_value d.value n hn statementPlace [] d.behind.text .semicolon
    (.stop d.behind) (o + 1 + byteSize d.before.text) ls
  obtain ⟨n, rfl⟩ : ∃ m, n = m + 1 := by
    rw [htext, List.length_cons] at hn
    exact ⟨n - 1, by omega⟩
  have hgoal : ofGoal (n + 1) (.expression statementPlace) =
      expression (ofGoal n) statementPlace := rfl
  have hspaced : ' ' :: d.text = d.before.spaced.text ++ (d.value.text ++ d.behind.text) := rfl
  have hspace : o + byteSize d.before.spaced.text = o + 1 + byteSize d.before.text := by
    have hsize : ' '.utf8Size = 1 := rfl
    rw [Gap.spaced, byteSize_cons, hsize, Nat.add_assoc]
  have hvalue := passesGap_expression (ofGoal n) statementPlace d.before.spaced _ o ls
    (beginsToken_value d.value d.behind.text)
  rw [← hspaced, hspace, ← hgoal] at hvalue
  rw [value, run_bind_some (hvalue.trans hrun), hs.expression]
  rfl

theorem run_declarator : (declarator (ofGoal n)).run
    (.fresh (' ' :: 'a' :: ' ' :: '=' :: ' ' :: d.text) o ls) =
      some ((), ⟨.plain, d.behind.text, o + 5 + byteSize d.before.text + byteSize d.value.text,
        some .semicolon, found (d.value.strings (o + 5 + byteSize d.before.text)) ls⟩) := by
  have hword : word.run (.fresh (' ' :: 'a' :: ' ' :: '=' :: ' ' :: d.text) o ls) =
      some ("a", .ready ('a' :: ' ' :: '=' :: ' ' :: d.text) (o + 1) ls) := rfl
  have hbinding : (binding (ofGoal n)).run
      (.ready ('a' :: ' ' :: '=' :: ' ' :: d.text) (o + 1) ls) =
        some ((), .fresh (' ' :: '=' :: ' ' :: d.text) (o + 2) ls) := rfl
  have htype : (bindingType (ofGoal n) true).run
      (.fresh (' ' :: '=' :: ' ' :: d.text) (o + 2) ls) =
        some (true, .fresh (' ' :: '=' :: ' ' :: d.text) (o + 2) ls) := rfl
  have hnext : (next { semicolon := true }).run (.fresh (' ' :: '=' :: ' ' :: d.text) (o + 2) ls) =
      some (.token, .ready ('=' :: ' ' :: d.text) (o + 3) ls) := rfl
  have hsign : (hasSign "=").run (.ready ('=' :: ' ' :: d.text) (o + 3) ls) =
      some (true, .fresh (' ' :: d.text) (o + 4) ls) := rfl
  have hrequire : (require true).run (.fresh (' ' :: d.text) (o + 4) ls) =
      some ((), .fresh (' ' :: d.text) (o + 4) ls) := rfl
  rw [declarator, run_bind_some hword]
  dsimp only
  rw [run_bind_some hbinding]
  have htrue : decide ("a" ≠ "") = true := rfl
  rw [htrue, run_bind_some htype, run_bind_some hnext]
  dsimp only
  rw [run_bind_some hsign, if_pos rfl, run_bind_some hrequire, run_value d n hn]

theorem run_bindings : (bindings (ofGoal n)).run
    (.ready (declared d.text) o ls) =
      some ((), .fresh d.behind.text (o + 8 + byteSize d.before.text + byteSize d.value.text)
        (found (d.value.strings (o + 8 + byteSize d.before.text)) ls)) := by
  have hvar : anyWord.run (.ready (declared d.text) o ls) =
      some ((), .fresh (' ' :: 'a' :: ' ' :: '=' :: ' ' :: d.text) (o + 3) ls) := rfl
  have hlist : (commaList (declarator (ofGoal n))).run
      (.fresh (' ' :: 'a' :: ' ' :: '=' :: ' ' :: d.text) (o + 3) ls) = some ((),
        ⟨.plain, d.behind.text, o + 8 + byteSize d.before.text + byteSize d.value.text,
          some .semicolon, found (d.value.strings (o + 8 + byteSize d.before.text)) ls⟩) := by
    apply run_iterate_last
    rw [run_bind_some (run_declarator d n hn (o + 3) ls),
      run_bind_some (run_hasSign_of_ne _ _ _ (d.behind.head?_ne ',' rfl) _)]
    rfl
  rw [bindings, run_bind_some hvar, declarators, run_bind_some hlist]
  rfl

theorem run_statement : (statement (ofGoal n)).run (.ready (declared d.text) o ls) =
    some ((), .fresh d.behind.text (o + 8 + byteSize d.before.text + byteSize d.value.text)
      (found (d.value.strings (o + 8 + byteSize d.before.text)) ls)) := by
  have hchar : upcomingChar.run (.ready (declared d.text) o ls) =
      some ('v', .ready (declared d.text) o ls) := rfl
  have hword : word.run (.ready (declared d.text) o ls) =
      some ("var", .ready (declared d.text) o ls) := rfl
  rw [statement, run_bind_some hchar, run_bind_some hword, if_neg (by decide),
    if_neg (by decide), if_neg (by decide), if_neg (by decide), plainStatement]
  exact run_bindings d n hn o ls

end

/-- Behind the data there is no other statement. -/
theorem run_statement_end (n : Nat) (g : Gap) (o : Nat) (ls : List Literal) :
    (statement (ofGoal (n + 1))).run (.fresh g.text o ls) = none := by
  have hchar := run_upcomingChar_append [] o ls g beginsToken_nil
  rw [List.append_nil] at hchar
  rw [statement, run_bind_some hchar]
  rfl

theorem run_script (d : Document) (n : Nat) (hn : d.value.text.length + 2 ≤ n) :
    (script (ofGoal n)).run (.fresh (declared d.text) 0 []) = some ((),
      .ready [] (8 + byteSize d.before.text + byteSize d.value.text + byteSize d.behind.text)
        (found (d.value.strings (8 + byteSize d.before.text)) [])) := by
  obtain ⟨n, rfl⟩ : ∃ m, n = m + 2 := ⟨n - 2, by omega⟩
  have hrest : rest.run (.fresh (declared d.text) 0 []) =
      some (declared d.text, .fresh (declared d.text) 0 []) := rfl
  have hsign : (hasSign "#!").run (.fresh (declared d.text) 0 []) =
      some (false, .ready (declared d.text) 0 []) := rfl
  have hfirst := run_body_some (n + 1) rfl
    (run_statement d (n + 1) (by omega) 0 [])
  have hlast := run_body_none (n + 1) rfl (run_statement_end n d.behind
    (0 + 8 + byteSize d.before.text + byteSize d.value.text)
    (found (d.value.strings (0 + 8 + byteSize d.before.text)) []))
  have hless : d.behind.text.length < (declared d.text).length := by
    simp only [declared, Document.text, List.length_cons, List.length_append]
    omega
  have hmany := run_many_more hfirst hless (run_many_last hlast)
  have hend := passesGap_upcoming.bind (fun text => require text.isEmpty) d.behind []
    (0 + 8 + byteSize d.before.text + byteSize d.value.text)
    (found (d.value.strings (0 + 8 + byteSize d.before.text)) []) beginsToken_nil
  rw [List.append_nil] at hend
  rw [Nat.zero_add] at hmany hend
  have hmark : (declared d.text).head? ≠ some '\ufeff' := by
    intro h
    exact absurd (Option.some.inj h) (by decide)
  rw [script, run_bind_some hrest, if_neg hmark, run_bind_some hsign, if_neg (by decide)]
  dsimp only
  rw [run_bind_some hmany, hend]
  rfl

end Glean.Script.Parser

namespace Glean.Search

open Data

/-- The literals of data are its strings. -/
theorem literals?_data (d : Document) :
    Language.json.literals? (dataLead ++ d.text) =
      some ((d.value.strings (8 + byteSize d.before.text)).map Script.Parser.literal) := by
  have hlength : d.value.text.length + 2 ≤ 8 * (dataLead ++ d.text).length + 64 := by
    simp only [Document.text, List.length_append]
    omega
  have hrun := Script.Parser.run_script d _ hlength
  change Script.literals? .plain (dataLead ++ d.text) = _
  unfold Script.literals?
  have hlead : dataLead ++ d.text = Script.Parser.declared d.text := rfl
  rw [hlead] at hrun ⊢
  dsimp only
  rw [hrun, Option.map_some, Script.Parser.found, List.append_nil, List.reverse_reverse]

end Glean.Search
