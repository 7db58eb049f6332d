import Glean.Proofs.DataTokens
import Glean.Script.Goal
import Mathlib.Data.List.TakeWhile

set_option autoImplicit false

/-!
# The gaps of data

White space between the tokens of data is a gap of a script, and passing it leads to the next token.
Behind the last token it is a place where a statement ends.
-/
namespace Glean

namespace Script

theorem isSpace_of_isPlainSpace (c : Char) (h : (isPlainSpace c || isBreak c) = true) :
    isSpace c = true := by
  simp only [isPlainSpace, isBreak, Bool.or_eq_true, decide_eq_true_eq] at h
  rcases h with (h | rfl) | (rfl | rfl) | rfl
  · simp only [isSpace, h, Bool.true_or]
  all_goals rfl

/-- A text that begins with a token which no operator begins with, or that is at its end. -/
structure BeginsToken (text : List Char) : Prop where
  head : ∀ c, text.head? = some c → isSpace c = false ∧ c ≠ '/' ∧ c ≠ '?'
  markup : markupCommentLength text = 0

theorem markupCommentLength_cons (c : Char) (text : List Char) (h : c ≠ '<') (h' : c ≠ '-') :
    markupCommentLength (c :: text) = 0 := by
  have hopen : lengthOf "<!--" (c :: text) = 0 := by
    simp [lengthOf, Ne.symm h]
  have hclose : lengthOf "-->" (c :: text) = 0 := by
    simp [lengthOf, Ne.symm h']
  simp [markupCommentLength, hopen, hclose]

def digits : List Char := ['0', '1', '2', '3', '4', '5', '6', '7', '8', '9']

theorem mem_digits (c : Char) (h : c.isDigit = true) : c ∈ digits := by
  have hbounds : 48 ≤ c.toNat ∧ c.toNat ≤ 57 := by
    simpa [Char.isDigit, UInt32.le_iff_toNat_le] using h
  have hall : ∀ n : Fin 10, Char.ofNat (48 + n) ∈ digits := by decide
  have hc := hall ⟨c.toNat - 48, by omega⟩
  have hsum : 48 + (c.toNat - 48) = c.toNat := by omega
  rwa [hsum, Char.ofNat_toNat] at hc

/-- The characters that tokens of data begin with, but for the minus sign. -/
def leads : List Char := "\"[]\x7b\x7d,:tfn".toList ++ digits

theorem beginsToken_cons (c : Char) (text : List Char) (h : c ∈ leads) :
    BeginsToken (c :: text) := by
  have hall : ∀ c ∈ leads, (isSpace c = false ∧ c ≠ '/' ∧ c ≠ '?') ∧ c ≠ '<' ∧ c ≠ '-' :=
    Data.forall_mem_of_all (by decide)
  obtain ⟨hhead, hopen, hclose⟩ := hall c h
  refine ⟨?_, markupCommentLength_cons c text hopen hclose⟩
  rintro d hd
  obtain rfl := Option.some.inj hd
  exact hhead

theorem beginsToken_digit (c : Char) (text : List Char) (h : c.isDigit = true) :
    BeginsToken (c :: text) :=
  beginsToken_cons c text (List.mem_append_right _ (mem_digits c h))

theorem beginsToken_minus (c : Char) (text : List Char) (h : c.isDigit = true) :
    BeginsToken ('-' :: c :: text) := by
  refine ⟨?_, ?_⟩
  · rintro d hd
    obtain rfl := Option.some.inj hd
    decide
  · have hc : c ≠ '-' := by
      rintro rfl
      contradiction
    have hclose : lengthOf "-->" ('-' :: c :: text) = 0 := by
      simp [lengthOf, Ne.symm hc]
    have hopen : lengthOf "<!--" ('-' :: c :: text) = 0 := by
      simp [lengthOf]
    simp [markupCommentLength, hopen, hclose]

theorem beginsToken_nil : BeginsToken [] := ⟨nofun, rfl⟩

end Script

namespace Data

open Script

theorem isBlank_cases (c : Char) (h : isBlank c = true) :
    c = ' ' ∨ c = '\t' ∨ c = '\n' ∨ c = '\r' := by
  simpa only [isBlank, Bool.or_eq_true, decide_eq_true_eq, or_assoc] using h

/-- What holds of the four characters holds of all white space. -/
theorem of_isBlank {p : Char → Prop} [DecidablePred p]
    (hp : [' ', '\t', '\n', '\r'].all (fun c => decide (p c)) = true) (c : Char)
    (h : isBlank c = true) : p c := by
  have hall := forall_mem_of_all hp
  rcases isBlank_cases c h with rfl | rfl | rfl | rfl <;> exact hall _ (by decide)

theorem endsAt?_of_isBlank (f : Follow) (c : Char) (text : List Char)
    (h : ∀ d ∈ c :: text, isBlank d = true) :
    endsAt? .plain f ⟨c :: text, false⟩ = none ∨
      ∃ look, endsAt? .plain f ⟨c :: text, false⟩ = some (true, look) := by
  rcases isBlank_cases c (h c List.mem_cons_self) with rfl | rfl | rfl | rfl
  · exact .inl rfl
  · exact .inl rfl
  · right
    have hplain : ∀ d, isBlank d = true → isPlainSpace d = true := of_isBlank (by decide)
    have htext : text.dropWhile isPlainSpace = [] := by
      rw [List.dropWhile_eq_nil_iff]
      exact fun d hd => hplain d (h d (List.mem_cons_of_mem _ hd))
    refine ⟨⟨[], false⟩, ?_⟩
    simp [endsAt?, isBreak, lookBehind, htext, endsBefore]
  · exact .inl rfl

/-- A statement ends where nothing but white space is left. -/
theorem endsHere_of_isBlank (f : Follow) (text : List Char) (h : ∀ c ∈ text, isBlank c = true)
    (n : Nat) (hn : text.length < n) : (endsHere .plain f n false text).1 = true := by
  induction text generalizing n with
  | nil =>
    cases n with
    | zero => exact absurd hn (Nat.not_lt_zero _)
    | succ n => rfl
  | cons c text ih =>
    cases n with
    | zero => exact absurd hn (Nat.not_lt_zero _)
    | succ n =>
      have hnext := ih (fun d hd => h d (List.mem_cons_of_mem c hd)) n (Nat.lt_of_succ_lt_succ hn)
      have hc := h c List.mem_cons_self
      have hend : isEnd (c :: text) = false := by
        rcases isBlank_cases c hc with rfl | rfl | rfl | rfl <;> rfl
      have hslash : ∀ c, isBlank c = true → c ≠ '/' := of_isBlank (by decide)
      rcases endsAt?_of_isBlank f c text h with hnone | ⟨look, hsome⟩
      · simp [endsHere, hend, hslash c hc, hnone, hnext]
      · simp [endsHere, hend, hslash c hc, hsome]

namespace Gap

variable (g : Gap)

theorem spanLength_append (p : Char → Bool) (hp : ∀ c, isBlank c = true → p c = true)
    (rest : List Char) (hrest : ∀ c, rest.head? = some c → p c = false) :
    spanLength p (g.text ++ rest) = g.text.length := by
  refine Script.spanLength_append p g.text rest ?_ hrest
  intro c hc
  refine ⟨?_, hp c (g.blank c hc)⟩
  rintro rfl
  exact absurd (g.blank _ hc) (by decide)

theorem head?_ne (c : Char) (hc : isBlank c = false) : g.text.head? ≠ some c := by
  intro h
  rw [g.blank c (List.mem_of_mem_head? h)] at hc
  contradiction

/-- A gap with a space in front. -/
def spaced : Gap where
  text := ' ' :: g.text
  blank := by
    intro c hc
    rcases List.mem_cons.mp hc with rfl | hc
    · rfl
    · exact g.blank c hc

theorem gap_append (f : Follow) (hf : f.semicolon = false) (rest : List Char)
    (hrest : BeginsToken rest) (n : Nat) :
    gap .plain f (n + 1) (g.text ++ rest) = (g.text.length, .token) := by
  have hblanks : ∀ p : Char → Bool, (∀ c, isBlank c = true → p c = true) →
      (∀ c, p c = true → isSpace c = true) →
      spanLength p (g.text ++ rest) = g.text.length := by
    intro p hp hspace
    refine g.spanLength_append p hp rest fun c hc => ?_
    have hno := (hrest.head c hc).1
    cases hpc : p c with
    | false => rfl
    | true => rw [hspace c hpc] at hno; contradiction
  have hspace := hblanks isSpace (of_isBlank (by decide)) fun c hc => hc
  have hblank := hblanks (fun c => isPlainSpace c || isBreak c) (of_isBlank (by decide))
    isSpace_of_isPlainSpace
  have hplain := hblanks isPlainSpace (of_isBlank (by decide)) fun c hc =>
    isSpace_of_isPlainSpace c (by rw [hc]; rfl)
  have hquestion : questionLength .plain (g.text ++ rest) = 0 := by
    rw [questionLength, hplain, List.drop_left]
    cases rest with
    | nil => rfl
    | cons c rest =>
      have hc := (hrest.head c rfl).2.2
      simp [hc]
  have hcomment : commentLength rest = 0 := by
    cases rest with
    | nil => rfl
    | cons c rest =>
      have hc := (hrest.head c rfl).2.1
      simp [commentLength, hc]
  simp [gap, hf, hquestion, Dialect.hasTypes, hspace, hblank, hcomment, hrest.markup]

theorem gap_end (f : Follow) (hf : f.semicolon = true) (n : Nat) :
    gap .plain f (n + 1) g.text = (0, .semicolon) := by
  have hends := endsHere_of_isBlank f g.text g.blank (g.text.length + 1) (Nat.lt_succ_self _)
  simp [gap, hf, hends]

end Gap

end Data

end Glean
