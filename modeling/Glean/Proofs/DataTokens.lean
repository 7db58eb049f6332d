import Glean.Proofs.DataText
import Glean.Script.Cursor

set_option autoImplicit false

/-!
# The tokens of data

How long the tokens of data are where they are read as tokens of a script: as long as they are.
-/
namespace Glean

namespace Script

theorem spanLength_append (p : Char → Bool) (first rest : List Char)
    (hfirst : ∀ c ∈ first, c ≠ '\x00' ∧ p c = true)
    (hrest : ∀ c, rest.head? = some c → p c = false) :
    spanLength p (first ++ rest) = first.length := by
  induction first with
  | nil =>
    cases rest with
    | nil => rfl
    | cons c rest => simp [spanLength, hrest c rfl]
  | cons c first ih =>
    have hc := hfirst c List.mem_cons_self
    have hlength := ih fun d hd => hfirst d (List.mem_cons_of_mem c hd)
    simp [spanLength, hc, hlength]

theorem wordTail_append (word rest : List Char) (hword : ∀ c ∈ word, isWordChar c = true)
    (hrest : ∀ c, rest.head? = some c → c ≠ '\\' ∧ isWordChar c = false) (fuel : Nat)
    (hfuel : word.length ≤ fuel) : wordTail fuel (word ++ rest) = word.length := by
  induction word generalizing fuel with
  | nil =>
    cases fuel with
    | zero => rfl
    | succ fuel =>
      cases rest with
      | nil => rfl
      | cons c rest =>
        obtain ⟨hslash, hc⟩ := hrest c rfl
        rw [List.nil_append, wordTail]
        · simp [hc]
        · rintro text rfl -
          exact hslash rfl
  | cons c word ih =>
    cases fuel with
    | zero => contradiction
    | succ fuel =>
      have hc := hword c List.mem_cons_self
      have hlength := ih (fun d hd => hword d (List.mem_cons_of_mem c hd)) fuel
        (Nat.le_of_succ_le_succ hfuel)
      rw [List.cons_append, wordTail]
      · simp [hc, hlength]
      · rintro text rfl
        exact absurd hc (by decide)

theorem digitTail_append (digits rest : List Char) (hdigits : ∀ c ∈ digits, c.isDigit = true)
    (hrest : ∀ c, rest.head? = some c → c ≠ '_' ∧ c.isDigit = false) :
    digitTail Char.isDigit (digits ++ rest) = digits.length := by
  induction digits with
  | nil =>
    cases rest with
    | nil => rfl
    | cons c rest =>
      obtain ⟨hline, hc⟩ := hrest c rfl
      rw [List.nil_append, digitTail]
      · simp [hc]
      · rintro d text rfl -
        exact hline rfl
  | cons c digits ih =>
    have hc := hdigits c List.mem_cons_self
    have hlength := ih fun d hd => hdigits d (List.mem_cons_of_mem c hd)
    rw [List.cons_append, digitTail]
    · simp [hc, hlength]
    · rintro d text rfl
      exact absurd hc (by decide)

/-- A decimal number with some digits in front, of which the first is no needless zero. -/
theorem decimalLength_of_whole (text : List Char) (n : Nat)
    (hn : digitsLength Char.isDigit text = n + 1) (hpoint : text.head? ≠ some '.')
    (hzero : text.head? = some '0' → n = 0) :
    decimalLength text =
      match text.drop (n + 1) with
      | 'n' :: _ => n + 2
      | '.' :: fraction =>
        let m := digitsLength Char.isDigit fraction
        n + 2 + m + exponentLength (fraction.drop m)
      | behind => n + 1 + exponentLength behind := by
  have hwhole : digitsLength Char.isDigit text ≠ 0 := by
    rw [hn]
    exact Nat.succ_ne_zero n
  cases text with
  | nil => contradiction
  | cons c tail =>
    by_cases hc : c = '0'
    · subst hc
      obtain rfl := hzero rfl
      cases tail with
      | nil => rfl
      | cons d tail =>
        rw [decimalLength, if_neg hwhole, hn]
        rfl
    · rw [decimalLength, if_neg hwhole, hn]
      · rfl
      · rintro fraction htext
        exact hpoint (by rw [htext]; rfl)
      · rintro d text htext
        exact hc (List.cons.inj htext).1

end Script

namespace Data

/-- What can stand right behind a token of data, but for the end of the text. -/
def delimiters : List Char := " \t\n\r,]\x7d:".toList

def IsDelimited (text : List Char) : Prop := ∀ c, text.head? = some c → c ∈ delimiters

theorem IsDelimited.of_delimiters {text : List Char} (h : IsDelimited text) (p : Char → Prop)
    [DecidablePred p] (hp : delimiters.all (fun c => decide (p c)) = true) (c : Char)
    (hc : text.head? = some c) : p c :=
  forall_mem_of_all hp c (h c hc)

namespace Piece

theorem bodyLength_append (p : Piece) (fuel : Nat) (rest : List Char) :
    Script.bodyLength '"' (fuel + 1) (p.text ++ rest) =
      (Script.bodyLength '"' fuel rest).map (· + p.text.length) := by
  cases p with
  | plain c h =>
    simp only [isPlain, Bool.and_eq_true, decide_eq_true_eq] at h
    obtain ⟨⟨hlow, hquote⟩, hslash⟩ := h
    have hne : ∀ d : Char, d < '\x20' → c ≠ d := by
      rintro d hd rfl
      exact absurd hlow (Char.not_le.mpr hd)
    simp [text, Script.bodyLength, hquote, hslash, hne '\x00' (by decide), hne '\r' (by decide),
      hne '\n' (by decide)]
  | escape c h =>
    have hlength : Script.escapeLength ('\\' :: c :: rest) = 2 := by
      have hall : ∀ c ∈ escapes, c ≠ '\x00' ∧ c ≠ 'x' ∧ c ≠ 'u' ∧ Script.isOctal c = false ∧
          c ≠ '\r' ∧ c ≠ '?' := forall_mem_of_all (by decide)
      obtain ⟨h₁, h₂, h₃, h₄, h₅, h₆⟩ := hall c h
      simp [Script.escapeLength, h₁, h₂, h₃, h₄, h₅, h₆]
    simp [text, Script.bodyLength, hlength]
  | unit a b c d h =>
    have hhex : ∀ x ∈ [a, b, c, d], x ≠ '\x00' ∧ Script.isHex x = true := by
      intro x hx
      refine ⟨?_, h x hx⟩
      rintro rfl
      exact absurd (h _ hx) (by decide)
    have hfour : 4 ≤ Script.spanLength Script.isHex (a :: b :: c :: d :: rest) := by
      simp only [List.mem_cons, List.not_mem_nil, or_false, forall_eq_or_imp, forall_eq] at hhex
      simp [Script.spanLength, hhex]
    have hpoint : Script.codePointLength (a :: b :: c :: d :: rest) = 4 := by
      rw [Script.codePointLength]
      · rw [if_pos hfour]
      · rintro text htext
        have ha : a = '\x7b' := (List.cons.inj htext).1
        subst ha
        exact absurd (hhex _ List.mem_cons_self).2 (by decide)
    have hlength : Script.escapeLength ('\\' :: 'u' :: a :: b :: c :: d :: rest) = 6 := by
      simp [Script.escapeLength, hpoint]
    simp [text, Script.bodyLength, hlength]

theorem length_text_pos (p : Piece) : 0 < p.text.length := by
  cases p <;> exact Nat.succ_pos _

end Piece

namespace Quoted

theorem bodyLength_append (pieces : List Piece) (rest : List Char) (fuel : Nat)
    (hfuel : pieces.length < fuel) :
    Script.bodyLength '"' fuel (pieces.flatMap Piece.text ++ '"' :: rest) =
      some ((pieces.flatMap Piece.text).length + 1) := by
  induction pieces generalizing fuel with
  | nil =>
    cases fuel with
    | zero => contradiction
    | succ fuel => simp [Script.bodyLength]
  | cons p pieces ih =>
    cases fuel with
    | zero => contradiction
    | succ fuel =>
      rw [List.flatMap_cons, List.append_assoc, p.bodyLength_append,
        ih fuel (Nat.lt_of_succ_lt_succ hfuel), Option.map_some, List.length_append]
      congr 1
      omega

theorem length_pieces_le (pieces : List Piece) :
    pieces.length ≤ (pieces.flatMap Piece.text).length := by
  induction pieces with
  | nil => exact Nat.le_refl 0
  | cons p pieces ih =>
    have hp := p.length_text_pos
    simp only [List.flatMap_cons, List.length_append, List.length_cons]
    omega

theorem stringLength_append (s : Quoted) (rest : List Char) :
    Script.stringLength (s.text ++ rest) = s.text.length := by
  have hpieces := length_pieces_le s.pieces
  have hbody := bodyLength_append s.pieces rest ((s.body ++ '"' :: rest).length + 1) (by
    simp only [body, List.length_append, List.length_cons]
    omega)
  change Script.bodyLength '"' _ (s.body ++ '"' :: rest) = some (s.body.length + 1) at hbody
  have htext : s.text ++ rest = '"' :: (s.body ++ '"' :: rest) := by
    simp only [text, List.cons_append, List.append_assoc, List.nil_append]
  rw [htext, Script.stringLength, if_pos (by decide), hbody]
  simp only [text, List.length_cons, List.length_append, List.length_nil]

end Quoted

theorem wordLength_append (w : Word) (rest : List Char) (h : IsDelimited rest) :
    Script.wordLength (w.text ++ rest) = w.text.length := by
  have htail := Script.wordTail_append w.text rest
    (by cases w <;> exact forall_mem_of_all (by decide)) (h.of_delimiters _ (by decide))
    (w.text ++ rest).length (by simp)
  have hhead : (w.text ++ rest).head?.any Char.isDigit = false := by
    cases w <;> rfl
  rw [Script.wordLength, hhead]
  exact htail

@[simp] theorem Digits.length_text (d : Digits) : d.text.length = d.others.length + 1 := rfl

/-- What ends a run of digits. -/
def EndsDigits (text : List Char) : Prop :=
  ∀ c, text.head? = some c → c ≠ '_' ∧ c.isDigit = false

theorem IsDelimited.endsDigits {text : List Char} (h : IsDelimited text) : EndsDigits text :=
  h.of_delimiters _ (by decide)

theorem Digits.digitsLength_append (d : Digits) (rest : List Char) (h : EndsDigits rest) :
    Script.digitsLength Char.isDigit (d.text ++ rest) = d.text.length := by
  have htail := Script.digitTail_append d.others rest
    (fun c hc => d.digits c (List.mem_cons_of_mem _ hc)) h
  simp [text, Script.digitsLength, d.digits d.first List.mem_cons_self, htail]

theorem Exponent.exponentLength_append (e : Exponent) (rest : List Char) (h : EndsDigits rest) :
    Script.exponentLength (e.text ++ rest) = e.text.length := by
  have hdigits := e.digits.digitsLength_append rest h
  have hsign : (e.digits.text ++ rest).head?.any (fun c => c = '+' || c = '-') = false := by
    have hfirst := e.digits.digits _ List.mem_cons_self
    have hne : ∀ c : Char, c.isDigit = false → e.digits.first ≠ c := by
      rintro c hc rfl
      rw [hfirst] at hc
      contradiction
    simp [Digits.text, hne '+' rfl, hne '-' rfl]
  have hmark : (decide (e.mark = 'e') || decide (e.mark = 'E')) = true := by
    rcases e.isMark with h | h <;> rw [h] <;> rfl
  obtain ⟨k, hk⟩ : ∃ k, e.digits.text.length = k + 1 := ⟨_, rfl⟩
  rw [hk] at hdigits
  have htext : e.text ++ rest = e.mark :: (e.sign ++ (e.digits.text ++ rest)) := by
    simp only [text, List.cons_append, List.append_assoc]
  have hlength : e.text.length = 1 + e.sign.length + (k + 1) := by
    simp only [text, List.length_cons, List.length_append, hk]
    omega
  rw [htext, hlength, Script.exponentLength, if_pos hmark]
  rcases e.isSign with h | h | h
  · simp only [h, List.nil_append, hsign, Bool.false_eq_true, if_false, List.drop_zero, hdigits,
      List.length_nil]
  · simp [h, hdigits]
  · simp [h, hdigits]

namespace Number

variable (n : Number) (rest : List Char)

theorem exponentLength_append (h : IsDelimited rest) :
    Script.exponentLength (n.exponentText ++ rest) = n.exponentText.length := by
  unfold exponentText
  cases n.exponent with
  | none =>
    cases rest with
    | nil => rfl
    | cons c rest =>
      have hc := h.of_delimiters (fun c => c ≠ 'e' ∧ c ≠ 'E') (by decide) c rfl
      simp [Script.exponentLength, hc]
  | some e => exact e.exponentLength_append rest h.endsDigits

/-- What stands behind the digits of a number that has no fraction. -/
theorem mem_of_head?_exponentText (h : IsDelimited rest) (c : Char)
    (hc : (n.exponentText ++ rest).head? = some c) : c ∈ 'e' :: 'E' :: delimiters := by
  unfold exponentText at hc
  cases he : n.exponent with
  | none =>
    rw [he] at hc
    exact List.mem_cons_of_mem _ (List.mem_cons_of_mem _ (h c hc))
  | some e =>
    rw [he] at hc
    obtain rfl := Option.some.inj hc
    rcases e.isMark with h | h <;> rw [h] <;> decide

theorem endsDigits_exponentText (h : IsDelimited rest) : EndsDigits (n.exponentText ++ rest) := by
  have hall : ∀ c ∈ 'e' :: 'E' :: delimiters, c ≠ '_' ∧ c.isDigit = false :=
    forall_mem_of_all (by decide)
  exact fun c hc => hall c (n.mem_of_head?_exponentText rest h c hc)

/-- What stands behind the whole part of a number. -/
theorem mem_of_head?_fractionText (h : IsDelimited rest) (c : Char)
    (hc : (n.fractionText ++ (n.exponentText ++ rest)).head? = some c) :
    c ∈ '.' :: 'e' :: 'E' :: delimiters := by
  unfold fractionText at hc
  cases hf : n.fraction with
  | none =>
    rw [hf] at hc
    exact List.mem_cons_of_mem _ (n.mem_of_head?_exponentText rest h c hc)
  | some d =>
    rw [hf] at hc
    obtain rfl := Option.some.inj hc
    exact List.mem_cons_self

theorem endsDigits_fractionText (h : IsDelimited rest) :
    EndsDigits (n.fractionText ++ (n.exponentText ++ rest)) := by
  have hall : ∀ c ∈ '.' :: 'e' :: 'E' :: delimiters, c ≠ '_' ∧ c.isDigit = false :=
    forall_mem_of_all (by decide)
  exact fun c hc => hall c (n.mem_of_head?_fractionText rest h c hc)

theorem whole_append_magnitude : n.magnitude ++ rest =
    n.whole.text ++ (n.fractionText ++ (n.exponentText ++ rest)) := by
  simp only [magnitude, List.append_assoc]

theorem decimalLength_append (h : IsDelimited rest) :
    Script.decimalLength (n.magnitude ++ rest) = n.magnitude.length := by
  have hwhole := n.whole.digitsLength_append _ (n.endsDigits_fractionText rest h)
  have hexponent := n.exponentLength_append rest h
  have hfirst := n.whole.digits n.whole.first List.mem_cons_self
  rw [n.whole_append_magnitude, Script.decimalLength_of_whole _ n.whole.others.length hwhole,
    ← Digits.length_text, List.drop_left, magnitude, List.length_append, List.length_append]
  · unfold fractionText
    cases n.fraction with
    | none =>
      have hall : ∀ c ∈ 'e' :: 'E' :: delimiters, c ≠ 'n' ∧ c ≠ '.' :=
        forall_mem_of_all (by decide)
      have hhead := fun c hc => hall c (n.mem_of_head?_exponentText rest h c hc)
      dsimp only [List.nil_append]
      split
      · rename_i htext
        exact absurd rfl (hhead 'n' (by rw [htext]; rfl)).1
      · rename_i htext
        exact absurd rfl (hhead '.' (by rw [htext]; rfl)).2
      · simp only [hexponent, Digits.length_text, List.length_nil, Nat.zero_add]
    | some d =>
      have hd := d.digitsLength_append _ (n.endsDigits_exponentText rest h)
      simp only [List.cons_append, hd, List.drop_left, hexponent]
      simp only [Digits.length_text, List.length_cons]
      change n.whole.others.length + 2 + (d.others.length + 1) + n.exponentText.length = _
      omega
  · intro hpoint
    obtain hpoint := Option.some.inj hpoint
    rw [hpoint] at hfirst
    contradiction
  · intro hzero
    rw [n.canonical (Option.some.inj hzero)]
    rfl

/-- No number of data has a base sign. -/
theorem numberLength_append (h : IsDelimited rest) :
    Script.numberLength (n.magnitude ++ rest) = n.magnitude.length := by
  have hdecimal := n.decimalLength_append rest h
  have hbase : ∀ c, (n.fractionText ++ (n.exponentText ++ rest)).head? = some c →
      c ≠ 'x' ∧ c ≠ 'X' ∧ c ≠ 'o' ∧ c ≠ 'O' ∧ c ≠ 'b' ∧ c ≠ 'B' := by
    have hall : ∀ c ∈ '.' :: 'e' :: 'E' :: delimiters,
        c ≠ 'x' ∧ c ≠ 'X' ∧ c ≠ 'o' ∧ c ≠ 'O' ∧ c ≠ 'b' ∧ c ≠ 'B' :=
      forall_mem_of_all (by decide)
    exact fun c hc => hall c (n.mem_of_head?_fractionText rest h c hc)
  unfold Script.numberLength
  split
  · rename_i b digits htext
    have hparts := htext
    rw [n.whole_append_magnitude] at hparts
    obtain ⟨hzero, hothers⟩ := List.cons.inj hparts
    rw [n.canonical hzero] at hothers
    obtain ⟨h₁, h₂, h₃, h₄, h₅, h₆⟩ := hbase b (by
      rw [show n.fractionText ++ (n.exponentText ++ rest) = b :: digits from hothers]
      rfl)
    rw [hdecimal]
    simp [h₁, h₂, h₃, h₄, h₅, h₆]
  · exact hdecimal

end Number

end Data

end Glean
