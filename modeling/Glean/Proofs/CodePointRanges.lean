import Glean.Proofs.RangeClasses
import Mathlib.Data.List.Forall2
import Mathlib.Data.Nat.Digits.Defs

set_option autoImplicit false

/-!
# Ranges between two code points

A range from one character to another, each written by its code point in hexadecimal, is read if
the ends are in order, and then holds the characters from the first to the last.
-/
namespace Glean

/-- A hexadecimal digit, small or capital, with its value. -/
def IsHexDigit (d : Char) (v : Nat) : Prop := v < 16 ∧ (d = v.digitChar ∨ d = v.digitChar.toUpper)

/-- Hexadecimal digits that spell a number, the most significant one in front. -/
def SpellsNumber (digits : List Char) (n : Nat) : Prop :=
  digits ≠ [] ∧ ∃ values, List.Forall₂ IsHexDigit digits values ∧
    Nat.ofDigits 16 values.reverse = n

/-- The notations of a character by its code point: in braces, or by exactly four digits. -/
inductive Spells (c : Char) : List Char → Prop
  | braced (letter : Char) (digits : List Char) (hletter : letter = 'u' ∨ letter = 'x')
      (h : SpellsNumber digits c.toNat) :
      Spells c ('\\' :: letter :: '\x7b' :: (digits ++ ['\x7d']))
  | fixed (digits : List Char) (hlength : digits.length = 4) (h : SpellsNumber digits c.toNat) :
      Spells c ('\\' :: 'u' :: digits)

theorem IsHexDigit.hexValue? {d : Char} {v : Nat} (h : IsHexDigit d v) :
    Unicode.hexValue? d = some v := by
  have hall : ∀ v < 16, Unicode.hexValue? v.digitChar = some v ∧
      Unicode.hexValue? v.digitChar.toUpper = some v := by decide
  obtain ⟨hv, rfl | rfl⟩ := h
  · exact (hall v hv).1
  · exact (hall v hv).2

theorem foldl_digits (values : List Nat) :
    values.foldl (fun n d => n * 16 + d) 0 = Nat.ofDigits 16 values.reverse := by
  induction values using List.reverseRecOn with
  | nil => rfl
  | append_singleton values v ih =>
    rw [List.foldl_append, ih, List.reverse_append, List.reverse_singleton, List.singleton_append,
      Nat.ofDigits_cons]
    simp only [List.foldl_cons, List.foldl_nil]
    omega

namespace SpellsNumber

variable {digits : List Char} {n : Nat}

theorem filterMap_hexValue? {values : List Nat} (h : List.Forall₂ IsHexDigit digits values) :
    digits.filterMap Unicode.hexValue? = values := by
  induction h with
  | nil => rfl
  | cons hd _ ih => rw [List.filterMap_cons, hd.hexValue?, ih]

theorem ofHex (h : SpellsNumber digits n) : Unicode.ofHex digits = n := by
  obtain ⟨-, values, hvalues, rfl⟩ := h
  rw [Unicode.ofHex, filterMap_hexValue? hvalues, foldl_digits]

theorem isHex (h : SpellsNumber digits n) : ∀ d ∈ digits, Pattern.isHex d = true := by
  obtain ⟨-, values, hvalues, -⟩ := h
  induction hvalues with
  | nil => simp
  | cons hd _ ih =>
    rw [List.forall_mem_cons, Pattern.isHex, hd.hexValue?]
    exact ⟨rfl, ih⟩

theorem toDigits (n : Nat) : SpellsNumber (Nat.toDigits 16 n) n := by
  refine ⟨Nat.toDigits_ne_nil, ?_⟩
  induction n using Nat.strongRecOn with
  | ind n ih =>
    by_cases hn : n < 16
    · rw [Nat.toDigits_of_lt_base hn]
      exact ⟨[n], .cons ⟨hn, .inl rfl⟩ .nil, Nat.ofDigits_singleton⟩
    · obtain ⟨values, hvalues, hvalue⟩ := ih (n / 16) (by omega)
      rw [Nat.toDigits_of_base_le (by omega) (by omega)]
      refine ⟨values ++ [n % 16], List.rel_append hvalues (.cons ⟨by omega, .inl rfl⟩ .nil), ?_⟩
      rw [List.reverse_append, List.reverse_singleton, List.singleton_append, Nat.ofDigits_cons,
        hvalue]
      exact Nat.mod_add_div n 16

end SpellsNumber

namespace Pattern

theorem charOf?_toNat (c : Char) : charOf? c.toNat = some c := by
  have hvalid : c.toNat < 0xD800 ∨ (0xDFFF < c.toNat ∧ c.toNat < 0x110000) := c.valid
  rw [charOf?, if_pos hvalid, Char.ofNat_toNat]

theorem upToBrace_digits (digits rest : List Char) (h : ∀ d ∈ digits, isHex d = true) :
    upToBrace {} false (digits ++ '\x7d' :: rest) = some (digits, rest) := by
  induction digits with
  | nil => rfl
  | cons d digits ih =>
    have hd : d ≠ '\x7d' := by
      rintro rfl
      exact absurd (h _ List.mem_cons_self) (by decide)
    simp [upToBrace, hd, ih fun e he => h e (List.mem_cons_of_mem d he)]

theorem hexDigits_append (digits rest : List Char) (h : ∀ d ∈ digits, isHex d = true) :
    hexDigits {} digits.length (digits ++ rest) = .ok (digits, rest) := by
  induction digits with
  | nil => rfl
  | cons d digits ih =>
    have hrest := ih fun e he => h e (List.mem_cons_of_mem d he)
    rw [List.length_cons, List.cons_append, hexDigits, if_pos (h d List.mem_cons_self),
      Flags.skip_default, hrest]
    rfl

variable {c : Char} {digits : List Char} (h : SpellsNumber digits c.toNat)

include h in
theorem charOfHex_spelled (byte : Bool) (rest : List Char) :
    charOfHex byte digits rest = .ok (.char c byte, rest) := by
  rw [charOfHex, h.ofHex, charOf?_toNat]

include h in
theorem hexEscape_braced (width : Nat) (rest : List Char) :
    hexEscape {} width ('\x7b' :: (digits ++ '\x7d' :: rest)) = .ok (.char c false, rest) := by
  have hall : ¬(digits = [] ∨ (!digits.all isHex) = true) := by
    simpa using ⟨h.1, h.isHex⟩
  simp only [hexEscape, Flags.skip_default, upToBrace_digits digits rest h.isHex, if_neg hall]
  exact charOfHex_spelled h false rest

include h in
theorem hexEscape_fixed (hlength : digits.length = 4) (rest : List Char) :
    hexEscape {} 4 (digits ++ rest) = .ok (.char c false, rest) := by
  have hdigits := hexDigits_append digits rest h.isHex
  rw [hlength] at hdigits
  unfold hexEscape
  rw [Flags.skip_default]
  split
  · rename_i heq
    rw [heq] at hdigits
    contradiction
  · rename_i inside heq
    obtain ⟨d, ds, rfl⟩ := List.exists_cons_of_ne_nil h.1
    obtain rfl : d = '\x7b' := (List.cons.inj heq).1
    exact absurd (h.isHex _ List.mem_cons_self) (by decide)
  · rw [hdigits]
    exact charOfHex_spelled h false rest

theorem classAtom_spelled {text : List Char} (h : Spells c text) (rest : List Char) :
    classAtom {} (text ++ rest) = .ok (.char c false, rest) := by
  cases h with
  | braced letter digits hletter h =>
    have heq : '\\' :: letter :: '\x7b' :: (digits ++ ['\x7d']) ++ rest =
        '\\' :: letter :: '\x7b' :: (digits ++ '\x7d' :: rest) := by simp
    rw [heq]
    rcases hletter with rfl | rfl
    · exact hexEscape_braced h 4 rest
    · exact hexEscape_braced h 2 rest
  | fixed digits hlength h => exact hexEscape_fixed h hlength rest

end Pattern

theorem Spells.exists_cons {c : Char} {text : List Char} (h : Spells c text) :
    ∃ rest, text = '\\' :: rest := by
  cases h with
  | braced letter digits => exact ⟨_, rfl⟩
  | fixed digits => exact ⟨_, rfl⟩

namespace Pattern

variable {lo hi : Char} {first last : List Char}

theorem classMember_between (hfirst : Spells lo first) (hlast : Spells hi last)
    (rest : List Char) :
    classMember {} (first ++ '-' :: (last ++ rest)) =
      if lo ≤ hi then .ok (.range lo hi, rest) else .error .reversedRange := by
  obtain ⟨inside, heq⟩ := hlast.exists_cons
  have hpeek : peek? {} ('-' :: (last ++ rest)) = some '\\' := by
    rw [heq]
    rfl
  have hone : ¬('-' ≠ '-' ∨ some '\\' = some ']' ∨ some '\\' = some '-') := by decide
  simp only [classMember, classAtom_spelled hfirst, Flags.skip_default, bind, Except.bind, hpeek,
    if_neg hone, classAtom_spelled hlast]
  rfl

theorem readClass_between (hfirst : Spells lo first) (hlast : Spells hi last) :
    readClass {} ('[' :: (first ++ '-' :: (last ++ [']']))) =
      if lo ≤ hi then .ok (⟨.range lo hi, 1⟩, []) else .error .reversedRange := by
  have hmember := classMember_between hfirst hlast [']']
  obtain ⟨inside, rfl⟩ := hfirst.exists_cons
  have hread (cs : List Char) : readClass {} ('[' :: '\\' :: cs) =
      (classMember {} ('\\' :: cs) >>= fun p =>
        readClassFrom {} (cs.length + 2) (OpenClass.add ⟨false, [], none⟩ p.1 0) [] p.2) := rfl
  rw [List.cons_append] at hmember ⊢
  rw [hread, hmember]
  split
  all_goals rfl

end Pattern

namespace Range

/-- A range from one code point to another is read if the first is not behind the last, and then the
texts in range are those with a character between the two, the ends included. Otherwise the range
is named in the failure. Every character has such a notation. -/
theorem read_between (lo hi : Char) (first last : List Char) (hfirst : Spells lo first)
    (hlast : Spells hi last) :
    let spec := String.ofList (first ++ '-' :: last)
    (((∃ r, read spec = .ok r) ↔ lo ≤ hi) ∧
      (¬lo ≤ hi → read spec = .error (.badRange spec Pattern.Fault.reversedRange.message)) ∧
      ∀ r, read spec = .ok r → r.spec = spec ∧
        ∀ text, r.test text = true ↔ ∃ c ∈ text.toList, lo ≤ c ∧ c ≤ hi) ∧
    ∀ (c letter : Char), letter = 'u' ∨ letter = 'x' →
      Spells c ('\\' :: letter :: '\x7b' :: (Nat.toDigits 16 c.toNat ++ ['\x7d'])) := by
  intro spec
  refine ⟨?_, fun c letter hletter => .braced letter _ hletter (.toDigits c.toNat)⟩
  have hclass := Pattern.readClass_between hfirst hlast
  have hspec : Pattern.bracketed spec = '[' :: (first ++ '-' :: (last ++ [']'])) := by
    simp [Pattern.bracketed, spec]
  rw [← hspec] at hclass
  by_cases hle : lo ≤ hi
  · rw [if_pos hle] at hclass
    have hread : read spec = .ok ⟨spec, .set (.range lo hi)⟩ := read_of_class spec _ hclass
    refine ⟨⟨fun _ => hle, fun _ => ⟨_, hread⟩⟩, fun hnot => absurd hle hnot, ?_⟩
    intro r hr
    rw [hread, Except.ok.injEq] at hr
    subst r
    refine ⟨rfl, fun text => ?_⟩
    rw [test_of_set _ (.range lo hi) rfl, List.any_eq_true]
    simp
  · rw [if_neg hle] at hclass
    have hread : read spec = .error (.badRange spec Pattern.Fault.reversedRange.message) := by
      rw [read, classOf, Pattern.read_bracketed, hclass]
      rfl
    have hnone (r : Range) : read spec ≠ .ok r := by
      simp [hread]
    exact ⟨⟨fun hex => absurd hex.choose_spec (hnone _), fun h => absurd h hle⟩, fun _ => hread,
      fun r hr => absurd hr (hnone r)⟩

theorem read_between_notations :
    let spec := String.ofList ("\\u4E00".toList ++ '-' :: "\\x\x7b0001f600\x7d".toList)
    Spells '\u4e00' "\\u4E00".toList ∧ Spells '😀' "\\x\x7b0001f600\x7d".toList ∧
      ∃ r, read spec = .ok r ∧ r.test "a😀" = true ∧ r.test "a😁" = false := by
  intro spec
  have hfirst : Spells '\u4e00' "\\u4E00".toList :=
    .fixed "4E00".toList rfl ⟨by decide, [4, 14, 0, 0], by simp [IsHexDigit]; rfl, by decide⟩
  have hlast : Spells '😀' "\\x\x7b0001f600\x7d".toList :=
    .braced 'x' "0001f600".toList (.inr rfl)
      ⟨by decide, [0, 0, 0, 1, 15, 6, 0, 0], by simp [IsHexDigit], by decide⟩
  obtain ⟨⟨hread, -, htest⟩, -⟩ := read_between _ _ _ _ hfirst hlast
  obtain ⟨r, hr⟩ := hread.mpr (by decide)
  have hin := (htest r hr).2
  refine ⟨hfirst, hlast, r, hr, (hin "a😀").mpr ⟨'😀', by simp, by decide⟩, ?_⟩
  rw [Bool.eq_false_iff, ne_eq, hin]
  simp

end Range

end Glean
