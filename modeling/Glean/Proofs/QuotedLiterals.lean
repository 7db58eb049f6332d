import Glean.Proofs.Literals
import Glean.Proofs.ScriptRecords

set_option autoImplicit false

/-!
# What literals are

A literal is a text between two quotes of one kind, and its body is what stands between them. Where
there are types, the word for the type of strings is taken for a literal too, and for nothing else
there is.
-/
namespace Glean.Script

/-- A literal that is written as `body` between two quotes of one kind. -/
def Literal.Quotes (t : Literal) (body : List Char) : Prop :=
  ∃ q, isQuote q = true ∧ t.text = q :: (body ++ [q])

theorem isQuoted_iff (text : List Char) :
    isQuoted text = true ↔ ∃ q body, isQuote q = true ∧ text = q :: (body ++ [q]) := by
  constructor
  · intro h
    cases text with
    | nil => contradiction
    | cons q rest =>
      simp only [isQuoted, Bool.and_eq_true, decide_eq_true_eq] at h
      obtain ⟨body, rfl⟩ := List.getLast?_eq_some_iff.mp h.2
      exact ⟨q, body, h.1, rfl⟩
  · rintro ⟨q, body, hq, rfl⟩
    simp [isQuoted, hq]

theorem Literal.Quotes.body_eq {t : Literal} {body : List Char} (h : t.Quotes body) :
    t.body = body := by
  obtain ⟨q, hq, htext⟩ := h
  simp [Literal.body, htext, dropQuote, hq]

theorem Literal.Quotes.two_le {t : Literal} {body : List Char} (h : t.Quotes body) :
    2 ≤ byteSize t.text := by
  obtain ⟨q, -, htext⟩ := h
  have hq := Char.utf8Size_pos q
  rw [htext, byteSize_cons, byteSize_append, byteSize_cons]
  omega

theorem Literal.quotes_iff (t : Literal) : t.Quotes t.body ↔ isQuoted t.text = true := by
  rw [isQuoted_iff]
  constructor
  · rintro ⟨q, hq, htext⟩
    exact ⟨q, t.body, hq, htext⟩
  · rintro ⟨q, body, hq, htext⟩
    have h : t.Quotes body := ⟨q, hq, htext⟩
    rwa [h.body_eq]

theorem quotes_iff_of_isLiteral (d : Dialect) (t : Literal) (h : d.isLiteral t.text = true) :
    t.Quotes t.body ↔ ¬(d.hasTypes = true ∧ t.text = stringType) := by
  rw [t.quotes_iff]
  constructor
  · rintro hq ⟨-, htext⟩
    rw [htext] at hq
    exact absurd hq (by decide)
  · intro hn
    rw [Dialect.isLiteral, Bool.or_eq_true, Bool.and_eq_true, decide_eq_true_eq] at h
    exact h.resolve_right hn

/-- A literal is in quotes of one kind, which are what is dropped around its body, unless it is the
type of strings. So a record shows what a quoted literal of the script says, once calls are
replaced, or, where there are types and this word is in range, the type of strings. The scanners of
strings find nothing that is not quoted. -/
theorem quoted_or_string (l : Language) (code : List Char) (tokens : List Literal)
    (h : l.literals? code = some tokens) :
    (∀ t ∈ tokens, (t.Quotes t.body ∧ 2 ≤ byteSize t.text) ↔
      ¬(l.dialect.hasTypes = true ∧ t.text = stringType)) ∧
    (∀ r file before written records, ImportCall.neutralize written = code →
      read r l file before written = .ok records →
        (ImportCall.occursIn written = false → written = code) ∧
        ∀ x ∈ records, ∃ t ∈ tokens, t.StandsIn code ∧ x.text = String.ofList t.body ∧
          (t.Quotes x.text.toList ∨ l.dialect.hasTypes = true ∧ t.text = stringType ∧
            x.text = "string" ∧ r.test "string" = true)) ∧
    ∀ text, (0 < stringLength text → isQuoted (text.take (stringLength text)) = true) ∧
      (0 < attributeLength text → isQuoted (text.take (attributeLength text)) = true) := by
  have hliteral (t : Literal) (ht : t ∈ tokens) := l.standsIn_of_literals? code tokens h t ht
  refine ⟨?_, ?_, fun text => ⟨isQuoted_stringLength text, isQuoted_attributeLength text⟩⟩
  · intro t ht
    have hquotes := quotes_iff_of_isLiteral l.dialect t (hliteral t ht).2
    exact ⟨fun hq => hquotes.mp hq.1, fun hn => ⟨hquotes.mpr hn, (hquotes.mpr hn).two_le⟩⟩
  · intro r file before written records hcode hread
    refine ⟨fun hnone => by rw [← hcode, ImportCall.neutralize_eq_self written hnone], ?_⟩
    intro x hx
    obtain ⟨found, hfound, rfl⟩ := (read_eq_ok_iff r l file before written records).mp hread
    rw [hcode, h, Option.some.injEq] at hfound
    subst found
    obtain ⟨t, ht, htest, rfl⟩ := (mem_recordsOf r file before _ tokens x).mp hx
    refine ⟨t, ht, (hliteral t ht).1, rfl, ?_⟩
    simp only [Literal.recordIn, String.toList_ofList]
    by_cases htype : l.dialect.hasTypes = true ∧ t.text = stringType
    · have hbody : t.body = stringType := by
        rw [Literal.body, htype.2]
        decide
      rw [hbody] at htest
      exact .inr ⟨htype.1, htype.2, by rw [hbody]; rfl, htest⟩
    · exact .inl ((quotes_iff_of_isLiteral l.dialect t (hliteral t ht).2).mpr htype)

theorem string_type_is_literal :
    let code := "let x: string;".toList
    Language.typescript.literals? code = some [⟨7, stringType⟩] ∧
      (¬∃ body, Literal.Quotes ⟨7, stringType⟩ body) ∧
      ∃ r, Range.read "a-z" = .ok r ∧
        read r .typescript "a.ts" 0 code = .ok [⟨"a.ts", 1, .script, "string"⟩] := by
  intro code
  refine ⟨by decide +kernel, ?_, ⟨_, .set (.range 'a' 'z')⟩, rfl, ?_⟩
  · rintro ⟨body, q, hq, htext⟩
    obtain rfl : 's' = q := (List.cons.inj htext).1
    contradiction
  · rw [read_eq_ok_iff]
    exact ⟨[⟨7, stringType⟩], by decide +kernel, by decide +kernel⟩

theorem quoted_or_string_of_typed_binding :
    let code := "let x: string = \"'中\";".toList
    let tokens : List Literal := [⟨7, stringType⟩, ⟨16, "\"'中\"".toList⟩]
    Language.typescript.literals? code = some tokens ∧
      Literal.Quotes ⟨16, "\"'中\"".toList⟩ "'中".toList ∧
      ¬Literal.Quotes ⟨7, stringType⟩ stringType := by
  intro code tokens
  have htokens : Language.typescript.literals? code = some tokens := by decide +kernel
  obtain ⟨literals, -, -⟩ := quoted_or_string .typescript code tokens htokens
  have hvalue := (literals ⟨16, "\"'中\"".toList⟩ (by simp [tokens])).mpr (by decide)
  have htype := literals ⟨7, stringType⟩ (by simp [tokens])
  exact ⟨htokens, hvalue.1, fun hq => htype.mp ⟨hq, hq.two_le⟩ ⟨rfl, rfl⟩⟩

end Glean.Script
