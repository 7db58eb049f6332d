import Glean.Proofs.Utf8
import Mathlib.Algebra.Group.Nat.Defs

set_option autoImplicit false

/-!
# Bytes that are no characters

What cannot be read as a character is replaced piece by piece. A piece is as long as the form of
some character could begin with it, and one byte long where no form begins so. All else is the form
of the character that it is read as.
-/
namespace Glean

namespace Text

/-- The form of some character begins with these bytes. -/
def BeginsChar (bytes : List UInt8) : Prop := ∃ c, bytes <+: String.utf8EncodeChar c

/-- A piece in front of the rest of some bytes that is replaced as a whole: no character stands
there, and nothing longer begins the form of one. -/
structure IllFormed (piece rest : List UInt8) : Prop where
  no_char : ∀ c, ¬String.utf8EncodeChar c <+: piece ++ rest
  begins : piece.length = 1 ∨ piece ≠ [] ∧ BeginsChar piece
  longest : ∀ more, more <+: piece ++ rest → BeginsChar more → more.length ≤ piece.length

/-- Bytes are read as a text. -/
inductive ReadsAs : List UInt8 → List Char → Prop
  | nil : ReadsAs [] []
  | char (c : Char) {rest : List UInt8} {text : List Char} (h : ReadsAs rest text) :
      ReadsAs (String.utf8EncodeChar c ++ rest) (c :: text)
  | replaced {piece rest : List UInt8} {text : List Char} (h : IllFormed piece rest)
      (hrest : ReadsAs rest text) : ReadsAs (piece ++ rest) (replacement :: text)

/-! ### Characters that have been read in part -/

/-- The bytes of a character that has been read in part. -/
inductive Pending : List UInt8 → Partial → Prop
  | lead {b : UInt8} {p : Partial} (h : Text.lead b = .more p) : Pending [b] p
  | push {own : List UInt8} {p : Partial} {b : UInt8} (h : Pending own p)
      (hb : p.admits b = true) (howed : ¬p.owed ≤ 1) : Pending (own ++ [b]) (p.push b)

theorem Pending.ne_nil {own : List UInt8} {p : Partial} (h : Pending own p) : own ≠ [] := by
  cases h with
  | lead => exact List.cons_ne_nil _ _
  | push => exact List.append_ne_nil_of_right_ne_nil _ (List.cons_ne_nil _ _)

theorem Pending.decodeFrom_append {own : List UInt8} {p : Partial} (h : Pending own p)
    (rest : List UInt8) : decodeFrom none (own ++ rest) = decodeFrom (some p) rest := by
  induction h generalizing rest with
  | lead h => rw [List.singleton_append, decodeFrom, h]
  | push h hb howed ih =>
    rw [List.append_assoc, List.singleton_append, ih, decodeFrom, if_pos hb, if_neg howed]

/-- A byte that a partial character does not allow is read afresh. -/
theorem decodeFrom_refused (p : Partial) (b : UInt8) (rest : List UInt8)
    (h : ¬p.admits b = true) :
    decodeFrom (some p) (b :: rest) = none :: decodeFrom none (b :: rest) := by
  simp only [decodeFrom, if_neg h]
  cases lead b <;> rfl

theorem decodeFrom_some_ne_nil (p : Partial) (bytes : List UInt8) :
    decodeFrom (some p) bytes ≠ [] := by
  induction bytes generalizing p with
  | nil => exact List.cons_ne_nil _ _
  | cons b rest ih =>
    by_cases h : p.admits b = true
    · rw [decodeFrom, if_pos h]
      split
      · exact List.cons_ne_nil _ _
      · exact ih (p.push b)
    · rw [decodeFrom_refused p b rest h]
      exact List.cons_ne_nil _ _

theorem eq_nil_of_decodeFrom (bytes : List UInt8) (h : decodeFrom none bytes = []) :
    bytes = [] := by
  cases bytes with
  | nil => rfl
  | cons b rest =>
    rw [decodeFrom] at h
    cases hlead : lead b with
    | char c => rw [hlead] at h; contradiction
    | more p =>
      rw [hlead] at h
      exact absurd h (decodeFrom_some_ne_nil p rest)
    | bad => rw [hlead] at h; contradiction

theorem decodeFrom_utf8EncodeChar (c : Char) :
    decodeFrom none (String.utf8EncodeChar c) = [some c] := by
  have h := decodeFrom_encodeChar c []
  rwa [List.append_nil] at h

/-- A character goes on until its last byte has been read. -/
theorem Pending.step {own : List UInt8} {p : Partial} (h : Pending own p) (b : UInt8)
    (tail : List UInt8) (c : Char) (htail : tail ≠ [])
    (hread : decodeFrom (some p) (b :: tail) = [some c]) :
    Pending (own ++ [b]) (p.push b) ∧ decodeFrom (some (p.push b)) tail = [some c] := by
  by_cases hb : p.admits b = true
  · rw [decodeFrom, if_pos hb] at hread
    by_cases howed : p.owed ≤ 1
    · rw [if_pos howed] at hread
      exact absurd (eq_nil_of_decodeFrom tail (List.cons.inj hread).2) htail
    · rw [if_neg howed] at hread
      exact ⟨h.push hb howed, hread⟩
  · rw [decodeFrom_refused p b tail hb] at hread
    cases hread

theorem Pending.exists_append {own : List UInt8} {p : Partial} (h : Pending own p)
    (more tail : List UInt8) (c : Char) (htail : tail ≠ [])
    (hread : decodeFrom (some p) (more ++ tail) = [some c]) : ∃ q, Pending (own ++ more) q := by
  induction more generalizing own p with
  | nil => exact ⟨p, by rwa [List.append_nil]⟩
  | cons b more ih =>
    obtain ⟨hnext, hrest⟩ :=
      h.step b (more ++ tail) c (List.append_ne_nil_of_right_ne_nil more htail) hread
    rw [List.append_cons]
    exact ih hnext hrest

/-- Inside its form, a character is pending. -/
theorem exists_pending (c : Char) (own tail : List UInt8) (hown : own ≠ []) (htail : tail ≠ [])
    (h : own ++ tail = String.utf8EncodeChar c) : ∃ p, Pending own p := by
  obtain ⟨b, more, rfl⟩ := List.exists_cons_of_ne_nil hown
  have hread := decodeFrom_utf8EncodeChar c
  rw [← h, List.cons_append, decodeFrom] at hread
  have hmore : more ++ tail ≠ [] := List.append_ne_nil_of_right_ne_nil more htail
  cases hlead : lead b with
  | char d =>
    rw [hlead] at hread
    exact absurd (eq_nil_of_decodeFrom _ (List.cons.inj hread).2) hmore
  | more p =>
    rw [hlead] at hread
    exact (Pending.lead hlead).exists_append more tail c htail hread
  | bad =>
    rw [hlead] at hread
    cases hread

/-! ### The bytes of a number -/

theorem admits_iff (p : Partial) (b : UInt8) :
    p.admits b = true ↔ p.low.toNat ≤ b.toNat ∧ b.toNat ≤ p.high.toNat := by
  rw [Partial.admits, Bool.and_eq_true, decide_eq_true_eq, decide_eq_true_eq,
    UInt8.le_iff_toNat_le, UInt8.le_iff_toNat_le]

theorem eq_ofNat (b : UInt8) (n : Nat) (h : b.toNat = n) : b = UInt8.ofNat n := by
  rw [← h, UInt8.ofNat_toNat]

theorem utf8EncodeChar_ofNat (n : Nat) (h : n < 0xD800 ∨ 0xDFFF < n ∧ n < 0x110000) :
    String.utf8EncodeChar (Char.ofNat n) =
      if n ≤ 0x7f then [UInt8.ofNat n]
      else if n ≤ 0x7ff then
        [UInt8.ofNat (n / 64 % 0x20 + 0xc0), UInt8.ofNat (n % 0x40 + 0x80)]
      else if n ≤ 0xffff then
        [UInt8.ofNat (n / 4096 % 0x10 + 0xe0), UInt8.ofNat (n / 64 % 0x40 + 0x80),
          UInt8.ofNat (n % 0x40 + 0x80)]
      else
        [UInt8.ofNat (n / 262144 % 0x08 + 0xf0), UInt8.ofNat (n / 4096 % 0x40 + 0x80),
          UInt8.ofNat (n / 64 % 0x40 + 0x80), UInt8.ofNat (n % 0x40 + 0x80)] := by
  have hn : (Char.ofNat n).val.toNat = n := by
    rw [Char.ofNat, dif_pos h]
    rfl
  unfold String.utf8EncodeChar
  rw [hn]

/-- The last bytes of the form of a character with this number. -/
def tails : Nat → Nat → List UInt8
  | 0, _ => []
  | k + 1, n => UInt8.ofNat (n / 64 ^ k % 64 + 0x80) :: tails k n

/-- What a partial character knows of the bytes behind it: the form of every character that it can
still become begins with them. -/
structure Partial.Spells (own : List UInt8) (p : Partial) : Prop where
  owed_pos : 0 < p.owed
  low_ge : 0x80 ≤ p.low.toNat
  low_le_high : p.low.toNat ≤ p.high.toNat
  high_le : p.high.toNat ≤ 0xBF
  spelled : ∀ n, n / 64 ^ p.owed = p.value → p.low.toNat ≤ n / 64 ^ (p.owed - 1) % 64 + 0x80 →
    n / 64 ^ (p.owed - 1) % 64 + 0x80 ≤ p.high.toNat →
    String.utf8EncodeChar (Char.ofNat n) = own ++ tails p.owed n

theorem lead_eq_more (b : UInt8) (p : Partial) (h : lead b = .more p) :
    (0xC2 ≤ b.toNat ∧ b.toNat < 0xE0 ∧ p = ⟨b.toNat - 0xC0, 1, 0x80, 0xBF⟩) ∨
    (0xE0 ≤ b.toNat ∧ b.toNat < 0xF0 ∧ p = ⟨b.toNat - 0xE0, 2,
      if b.toNat = 0xE0 then 0xA0 else 0x80, if b.toNat = 0xED then 0x9F else 0xBF⟩) ∨
    (0xF0 ≤ b.toNat ∧ b.toNat < 0xF5 ∧ p = ⟨b.toNat - 0xF0, 3,
      if b.toNat = 0xF0 then 0x90 else 0x80, if b.toNat = 0xF4 then 0x8F else 0xBF⟩) := by
  unfold lead at h
  dsimp only at h
  split at h
  · contradiction
  split at h
  · contradiction
  split at h
  · exact .inl ⟨by omega, by omega, (Lead.more.inj h).symm⟩
  split at h
  · exact .inr (.inl ⟨by omega, by omega, (Lead.more.inj h).symm⟩)
  split at h
  · exact .inr (.inr ⟨by omega, by omega, (Lead.more.inj h).symm⟩)
  · contradiction

theorem spells_two (b : UInt8) (hlo : 0xC2 ≤ b.toNat) (hhi : b.toNat < 0xE0) :
    Partial.Spells [b] ⟨b.toNat - 0xC0, 1, 0x80, 0xBF⟩ := by
  refine ⟨Nat.one_pos, Nat.le_refl 0x80, (by decide : 0x80 ≤ 0xBF), Nat.le_refl 0xBF, ?_⟩
  intro n hvalue _ _
  dsimp only [Nat.pow_one] at hvalue
  rw [utf8EncodeChar_ofNat n (by omega), if_neg (by omega), if_pos (by omega),
    eq_ofNat b (n / 64 % 0x20 + 0xc0) (by omega)]
  simp [tails]

/-- The second of three bytes keeps the number from being small and from being a surrogate. -/
theorem spells_three (b low high : UInt8) (hlo : 0xE0 ≤ b.toNat) (hhi : b.toNat < 0xF0)
    (hlow : 0x80 ≤ low.toNat) (hle : low.toNat ≤ high.toNat) (hhigh : high.toNat ≤ 0xBF)
    (hfirst : b.toNat = 0xE0 → 0xA0 ≤ low.toNat) (hgap : b.toNat = 0xED → high.toNat ≤ 0x9F) :
    Partial.Spells [b] ⟨b.toNat - 0xE0, 2, low, high⟩ := by
  refine ⟨Nat.two_pos, hlow, hle, hhigh, ?_⟩
  intro n hvalue hn1 hn2
  simp only [Nat.reducePow, Nat.reduceSub] at hvalue hn1 hn2
  rw [utf8EncodeChar_ofNat n (by omega), if_neg (by omega), if_neg (by omega), if_pos (by omega),
    eq_ofNat b (n / 4096 % 0x10 + 0xe0) (by omega)]
  simp [tails]

/-- The second of four bytes keeps the number from being small and from being too large. -/
theorem spells_four (b low high : UInt8) (hlo : 0xF0 ≤ b.toNat) (hhi : b.toNat < 0xF5)
    (hlow : 0x80 ≤ low.toNat) (hle : low.toNat ≤ high.toNat) (hhigh : high.toNat ≤ 0xBF)
    (hfirst : b.toNat = 0xF0 → 0x90 ≤ low.toNat) (hlast : b.toNat = 0xF4 → high.toNat ≤ 0x8F) :
    Partial.Spells [b] ⟨b.toNat - 0xF0, 3, low, high⟩ := by
  refine ⟨Nat.succ_pos 2, hlow, hle, hhigh, ?_⟩
  intro n hvalue hn1 hn2
  simp only [Nat.reducePow, Nat.reduceSub] at hvalue hn1 hn2
  rw [utf8EncodeChar_ofNat n (by omega), if_neg (by omega), if_neg (by omega), if_neg (by omega),
    eq_ofNat b (n / 262144 % 0x08 + 0xf0) (by omega)]
  simp [tails]

theorem spells_lead (b : UInt8) (p : Partial) (h : lead b = .more p) : p.Spells [b] := by
  rcases lead_eq_more b p h with ⟨hlo, hhi, rfl⟩ | ⟨hlo, hhi, rfl⟩ | ⟨hlo, hhi, rfl⟩
  · exact spells_two b hlo hhi
  · by_cases hfirst : b.toNat = 0xE0
    · rw [if_pos hfirst, if_neg (by omega)]
      exact spells_three b 0xA0 0xBF hlo hhi (by decide) (by decide) (by decide)
        (fun _ => Nat.le_refl 0xA0) (by omega)
    by_cases hgap : b.toNat = 0xED
    · rw [if_neg hfirst, if_pos hgap]
      exact spells_three b 0x80 0x9F hlo hhi (by decide) (by decide) (by decide)
        (by omega) (fun _ => Nat.le_refl 0x9F)
    · rw [if_neg hfirst, if_neg hgap]
      exact spells_three b 0x80 0xBF hlo hhi (by decide) (by decide) (by decide)
        (by omega) (by omega)
  · by_cases hfirst : b.toNat = 0xF0
    · rw [if_pos hfirst, if_neg (by omega)]
      exact spells_four b 0x90 0xBF hlo hhi (by decide) (by decide) (by decide)
        (fun _ => Nat.le_refl 0x90) (by omega)
    by_cases hlast : b.toNat = 0xF4
    · rw [if_neg hfirst, if_pos hlast]
      exact spells_four b 0x80 0x8F hlo hhi (by decide) (by decide) (by decide)
        (by omega) (fun _ => Nat.le_refl 0x8F)
    · rw [if_neg hfirst, if_neg hlast]
      exact spells_four b 0x80 0xBF hlo hhi (by decide) (by decide) (by decide)
        (by omega) (by omega)

/-- The number with which a partial character goes on behind a byte. -/
theorem Partial.Spells.of_push {own : List UInt8} {p : Partial} (h : p.Spells own) (b : UInt8)
    (hb : p.admits b = true) (n : Nat) (hn : n / 64 ^ (p.owed - 1) = (p.push b).value) :
    String.utf8EncodeChar (Char.ofNat n) = own ++ b :: tails (p.owed - 1) n := by
  obtain ⟨hlow, hhigh⟩ := (admits_iff p b).mp hb
  have hbounds := h.low_ge
  have hbounds' := h.high_le
  obtain ⟨k, hk⟩ := Nat.exists_eq_add_of_lt h.owed_pos
  rw [Nat.zero_add] at hk
  change n / 64 ^ (p.owed - 1) = p.value * 64 + (b.toNat - 0x80) at hn
  have hvalue : n / 64 ^ p.owed = p.value := by
    rw [hk, Nat.pow_succ, ← Nat.div_div_eq_div_mul]
    rw [hk, Nat.add_sub_cancel] at hn
    omega
  have hbyte : n / 64 ^ (p.owed - 1) % 64 + 0x80 = b.toNat := by omega
  rw [h.spelled n hvalue (by omega) (by omega), hk, tails,
    ← eq_ofNat b _ (by rw [← hbyte, hk]; rfl)]
  rfl

theorem Partial.Spells.push {own : List UInt8} {p : Partial} (h : p.Spells own) (b : UInt8)
    (hb : p.admits b = true) (howed : ¬p.owed ≤ 1) : (p.push b).Spells (own ++ [b]) := by
  refine ⟨?_, Nat.le_refl 0x80, (by decide : 0x80 ≤ 0xBF), Nat.le_refl 0xBF, ?_⟩
  · change 0 < p.owed - 1
    omega
  · intro n hn _ _
    rw [List.append_assoc, List.singleton_append]
    exact h.of_push b hb n hn

theorem Pending.spells {own : List UInt8} {p : Partial} (h : Pending own p) : p.Spells own := by
  induction h with
  | lead h => exact spells_lead _ _ h
  | push _ hb howed ih => exact ih.push _ hb howed

/-- A byte that is admitted is one with which the character can go on. -/
theorem Pending.begins_concat {own : List UInt8} {p : Partial} (h : Pending own p) (b : UInt8)
    (hb : p.admits b = true) : BeginsChar (own ++ [b]) := by
  have hchar := h.spells.of_push b hb ((p.push b).value * 64 ^ (p.owed - 1))
    (Nat.mul_div_cancel _ (Nat.pow_pos (by decide)))
  rw [List.append_cons] at hchar
  exact ⟨_, _, hchar.symm⟩

theorem Pending.begins {own : List UInt8} {p : Partial} (h : Pending own p) : BeginsChar own := by
  have hlow : p.admits p.low = true :=
    (admits_iff p p.low).mpr ⟨Nat.le_refl _, h.spells.low_le_high⟩
  obtain ⟨c, hc⟩ := h.begins_concat p.low hlow
  exact ⟨c, (List.prefix_append own [p.low]).trans hc⟩

theorem Pending.utf8EncodeChar_last {own : List UInt8} {p : Partial} (h : Pending own p)
    (b : UInt8) (hb : p.admits b = true) (howed : p.owed ≤ 1) :
    String.utf8EncodeChar (Char.ofNat (p.push b).value) = own ++ [b] := by
  have hzero : p.owed - 1 = 0 := by omega
  have hchar := h.spells.of_push b hb (p.push b).value (by rw [hzero, Nat.pow_zero, Nat.div_one])
  rwa [hzero] at hchar

theorem utf8EncodeChar_of_lead (b : UInt8) (c : Char) (h : lead b = .char c) :
    String.utf8EncodeChar c = [b] := by
  unfold lead at h
  dsimp only at h
  split at h
  · rename_i hb
    rw [← Lead.char.inj h, utf8EncodeChar_ofNat _ (by omega), if_pos (by omega), UInt8.ofNat_toNat]
  split at h
  · contradiction
  split at h
  · contradiction
  split at h
  · contradiction
  split at h
  · contradiction
  · contradiction

/-! ### Reading by the machine -/

/-- A piece at which reading stops, whatever follows the byte behind it, is replaced. -/
theorem illFormed_of_stops (piece rest : List UInt8)
    (hbegins : piece.length = 1 ∨ piece ≠ [] ∧ BeginsChar piece)
    (hstops : ∀ tail, tail.head? = rest.head? →
      (decodeFrom none (piece ++ tail)).head? = some none) : IllFormed piece rest := by
  refine ⟨?_, hbegins, ?_⟩
  · rintro c ⟨tail, htail⟩
    have h := hstops rest rfl
    rw [← htail, decodeFrom_encodeChar] at h
    cases h
  · rintro more ⟨behind, hmore⟩ ⟨c, tail, hc⟩
    apply Nat.le_of_not_lt
    intro hlonger
    -- The form goes on behind the piece with the byte that follows the piece.
    obtain ⟨further, rfl⟩ : piece <+: more :=
      List.prefix_of_prefix_length_le (List.prefix_append piece rest) ⟨behind, hmore⟩ (by omega)
    have hrest : further ++ behind = rest := by
      rw [List.append_assoc] at hmore
      exact List.append_cancel_left hmore
    cases further with
    | nil =>
      rw [List.append_nil] at hlonger
      exact Nat.lt_irrefl _ hlonger
    | cons b further =>
      have h := hstops (b :: further ++ tail) (by rw [← hrest]; rfl)
      rw [← List.append_assoc, hc, decodeFrom_utf8EncodeChar] at h
      cases h

theorem illFormed_single (b : UInt8) (rest : List UInt8) (h : lead b = .bad) :
    IllFormed [b] rest := by
  apply illFormed_of_stops [b] rest (.inl rfl)
  intro tail _
  rw [List.singleton_append, decodeFrom, h]
  rfl

theorem Pending.illFormed_end {own : List UInt8} {p : Partial} (h : Pending own p) :
    IllFormed own [] := by
  apply illFormed_of_stops own [] (.inr ⟨h.ne_nil, h.begins⟩)
  intro tail htail
  rw [List.head?_nil, List.head?_eq_none_iff] at htail
  rw [h.decodeFrom_append, htail]
  rfl

theorem Pending.illFormed_refused {own : List UInt8} {p : Partial} (h : Pending own p) (b : UInt8)
    (rest : List UInt8) (hb : ¬p.admits b = true) : IllFormed own (b :: rest) := by
  apply illFormed_of_stops own (b :: rest) (.inr ⟨h.ne_nil, h.begins⟩)
  intro tail htail
  obtain ⟨tail, rfl⟩ := List.head?_eq_some_iff.mp htail
  rw [h.decodeFrom_append, decodeFrom_refused p b tail hb]
  rfl

/-- What stands in for the bytes that are no character. -/
theorem readsAs_decodeFrom (bytes : List UInt8) :
    ReadsAs bytes (decode bytes) ∧ ∀ own p, Pending own p →
      ReadsAs (own ++ bytes) ((decodeFrom (some p) bytes).map (·.getD replacement)) := by
  induction bytes with
  | nil => exact ⟨.nil, fun own p hp => .replaced hp.illFormed_end .nil⟩
  | cons b rest ih =>
    obtain ⟨hfresh, hwithin⟩ := ih
    have hcons : ReadsAs (b :: rest) (decode (b :: rest)) := by
      rw [decode, decodeFrom]
      cases hlead : lead b with
      | char c =>
        have h := ReadsAs.char c hfresh
        rwa [utf8EncodeChar_of_lead b c hlead] at h
      | more p => exact hwithin [b] p (.lead hlead)
      | bad => exact .replaced (illFormed_single b rest hlead) hfresh
    refine ⟨hcons, ?_⟩
    intro own p hp
    by_cases hb : p.admits b = true
    · rw [decodeFrom, if_pos hb, List.append_cons]
      by_cases howed : p.owed ≤ 1
      · have h := ReadsAs.char (Char.ofNat (p.push b).value) hfresh
        rw [hp.utf8EncodeChar_last b hb howed] at h
        rw [if_pos howed, List.map_cons, Option.getD_some]
        exact h
      · rw [if_neg howed]
        exact hwithin _ _ (hp.push hb howed)
    · rw [decodeFrom_refused p b rest hb]
      exact .replaced (hp.illFormed_refused b rest hb) hcons

theorem IllFormed.decodeFrom_append {piece rest : List UInt8} (h : IllFormed piece rest) :
    decodeFrom none (piece ++ rest) = none :: decodeFrom none rest := by
  by_cases hbegins : piece ≠ [] ∧ BeginsChar piece
  · obtain ⟨hne, c, tail, hc⟩ := hbegins
    have htail : tail ≠ [] := by
      rintro rfl
      rw [List.append_nil] at hc
      exact h.no_char c (hc ▸ List.prefix_append piece rest)
    obtain ⟨p, hp⟩ := exists_pending c piece tail hne htail hc
    rw [hp.decodeFrom_append]
    cases rest with
    | nil => rfl
    | cons b rest =>
      apply decodeFrom_refused
      intro hb
      have hle := h.longest (piece ++ [b]) ⟨rest, by simp⟩ (hp.begins_concat b hb)
      rw [List.length_append, List.length_singleton] at hle
      omega
  · obtain ⟨b, rfl⟩ := List.length_eq_one_iff.mp (h.begins.resolve_right hbegins)
    have hnone : ¬BeginsChar [b] := fun hb => hbegins ⟨List.cons_ne_nil _ _, hb⟩
    rw [List.singleton_append, decodeFrom]
    cases hlead : lead b with
    | char c => exact absurd ⟨c, [], (utf8EncodeChar_of_lead b c hlead).symm⟩ hnone
    | more p => exact absurd (Pending.lead hlead).begins hnone
    | bad => rfl

/-- Bytes are read as one text. -/
theorem readsAs_iff (bytes : List UInt8) (text : List Char) :
    ReadsAs bytes text ↔ text = decode bytes := by
  constructor
  · intro h
    induction h with
    | nil => rfl
    | char c h ih => rw [decode, decodeFrom_encodeChar, ih]; rfl
    | replaced h hrest ih => rw [decode, h.decodeFrom_append, ih]; rfl
  · rintro rfl
    exact (readsAs_decodeFrom bytes).1

/-- A spelling that is too long, half a surrogate, a number that is too large, and a character that
an `A` cuts off. -/
example :
    decode [0xE0, 0x80, 0xED, 0xA0, 0xF4, 0x90, 0xE4, 0xB8, 0x41] =
      List.replicate 7 replacement ++ ['A'] := by decide

end Text
end Glean
