import Glean.Proofs.ReadBack
import Glean.Text.Utf8

set_option autoImplicit false

/-!
# Reading back what is written as UTF-8

The bytes of a text are those of its characters one behind the other, and each character is read
back from its bytes, whatever follows them. A line feed is one byte, and no other character has it.
-/
namespace Glean

namespace Text

theorem loop_toList (bytes : ByteArray) (n i : Nat) (done : List UInt8)
    (h : bytes.size = i + n) :
    ByteArray.toList.loop bytes i done = done.reverse ++ bytes.data.toList.drop i := by
  induction n generalizing i done with
  | zero =>
    have hlen : bytes.data.toList.length ≤ i := Nat.le_of_eq h
    rw [ByteArray.toList.loop, if_neg (by omega), List.drop_eq_nil_of_le hlen, List.append_nil]
  | succ n ih =>
    have hi : i < bytes.data.toList.length := by
      change i < bytes.size
      omega
    have hget : bytes.get! i = bytes.data.toList[i] := by
      change bytes.data[i]! = _
      rw [getElem!_pos bytes.data i hi, Array.getElem_toList]
    rw [ByteArray.toList.loop, if_pos (by omega), ih (i + 1) _ (by omega),
      List.drop_eq_getElem_cons hi,
      List.reverse_cons, List.append_assoc, List.singleton_append, hget]

theorem toList_eq (bytes : ByteArray) : bytes.toList = bytes.data.toList := by
  rw [ByteArray.toList, loop_toList bytes bytes.size 0 [] (Nat.zero_add _).symm]
  rfl

theorem toList_toUTF8 (text : List Char) :
    (String.ofList text).toUTF8.toList = text.flatMap String.utf8EncodeChar := by
  rw [toList_eq, String.toUTF8_eq_toByteArray, String.toByteArray_ofList, List.utf8Encode,
    List.toList_data_toByteArray]

theorem utf8EncodeChar_of_le (c : Char) (h : c.toNat ≤ 0x7f) :
    String.utf8EncodeChar c = [UInt8.ofNat c.toNat] :=
  if_pos h

theorem le_of_mem_utf8EncodeChar (c : Char) (h : 0x7f < c.toNat) (b : UInt8)
    (hb : b ∈ String.utf8EncodeChar c) : 0x80 ≤ b.toNat := by
  have hv : c.val.toNat = c.toNat := rfl
  unfold String.utf8EncodeChar at hb
  rw [hv] at hb
  dsimp only at hb
  generalize c.toNat = n at h hb
  rw [if_neg (by omega)] at hb
  revert b
  split
  · simp only [List.mem_cons, List.not_mem_nil, or_false, forall_eq_or_imp, forall_eq,
      UInt8.toNat_ofNat']
    omega
  · split
    · simp only [List.mem_cons, List.not_mem_nil, or_false, forall_eq_or_imp, forall_eq,
        UInt8.toNat_ofNat']
      omega
    · simp only [List.mem_cons, List.not_mem_nil, or_false, forall_eq_or_imp, forall_eq,
        UInt8.toNat_ofNat']
      omega

theorem utf8EncodeChar_lineFeed : String.utf8EncodeChar '\n' = [0x0A] := by decide

theorem lineFeed_not_mem_utf8EncodeChar (c : Char) (h : c ≠ '\n') :
    0x0A ∉ String.utf8EncodeChar c := by
  intro hmem
  by_cases hc : c.toNat ≤ 0x7f
  · rw [utf8EncodeChar_of_le c hc, List.mem_singleton] at hmem
    have hnat := congrArg UInt8.toNat hmem
    rw [UInt8.toNat_ofNat_of_lt' (show c.toNat < 0x100 by omega)] at hnat
    exact h (Char.toNat_inj.mp hnat.symm)
  · exact absurd (le_of_mem_utf8EncodeChar c (by omega) _ hmem) (by decide)

theorem lead_ofNat (n : Nat) (h : n < 256) :
    lead (UInt8.ofNat n) =
      if n < 0x80 then .char (Char.ofNat n)
      else if n < 0xC2 then .bad
      else if n < 0xE0 then .more ⟨n - 0xC0, 1, 0x80, 0xBF⟩
      else if n < 0xF0 then
        .more ⟨n - 0xE0, 2, if n = 0xE0 then 0xA0 else 0x80, if n = 0xED then 0x9F else 0xBF⟩
      else if n < 0xF5 then
        .more ⟨n - 0xF0, 3, if n = 0xF0 then 0x90 else 0x80, if n = 0xF4 then 0x8F else 0xBF⟩
      else .bad := by
  have hn : (UInt8.ofNat n).toNat = n := UInt8.toNat_ofNat_of_lt' h
  unfold lead
  rw [hn]

/-- A byte that a partial character admits takes it one step further. -/
theorem decodeFrom_admitted (p : Partial) (n : Nat) (rest : List UInt8) (h : n < 256)
    (hlow : p.low.toNat ≤ n) (hhigh : n ≤ p.high.toNat) :
    decodeFrom (some p) (UInt8.ofNat n :: rest) =
      if p.owed ≤ 1 then some (Char.ofNat (p.value * 64 + (n - 0x80))) :: decodeFrom none rest
      else decodeFrom (some ⟨p.value * 64 + (n - 0x80), p.owed - 1, 0x80, 0xBF⟩) rest := by
  have hn : (UInt8.ofNat n).toNat = n := UInt8.toNat_ofNat_of_lt' h
  have hadmits : p.admits (UInt8.ofNat n) = true := by
    rw [Partial.admits, Bool.and_eq_true, decide_eq_true_eq, decide_eq_true_eq,
      UInt8.le_iff_toNat_le, UInt8.le_iff_toNat_le, hn]
    exact ⟨hlow, hhigh⟩
  have hpush : p.push (UInt8.ofNat n) =
      ⟨p.value * 64 + (n - 0x80), p.owed - 1, 0x80, 0xBF⟩ := by
    unfold Partial.push
    rw [hn]
  rw [decodeFrom, if_pos hadmits, hpush]

theorem toNat_bounds (c : Char) : c.toNat < 0xD800 ∨ 0xDFFF < c.toNat ∧ c.toNat < 0x110000 :=
  c.valid

theorem value_tail (m n : Nat) (h : m = n / 64) : m * 64 + (n % 0x40 + 0x80 - 0x80) = n := by
  omega

theorem low_le_tail (n : Nat) : (0x80 : UInt8).toNat ≤ n % 0x40 + 0x80 := Nat.le_add_left _ _

theorem tail_le_high (n : Nat) : n % 0x40 + 0x80 ≤ (0xBF : UInt8).toNat := by
  change n % 0x40 + 0x80 ≤ 0xBF
  omega

theorem tail_lt (n : Nat) : n % 0x40 + 0x80 < 256 := by
  omega

theorem ite_le_tail (p : Prop) [Decidable p] (low : UInt8) (n : Nat)
    (h : p → low.toNat ≤ n % 0x40 + 0x80) :
    (if p then low else 0x80 : UInt8).toNat ≤ n % 0x40 + 0x80 := by
  by_cases hp : p
  · rw [if_pos hp]
    exact h hp
  · rw [if_neg hp]
    exact low_le_tail n

theorem tail_le_ite (p : Prop) [Decidable p] (high : UInt8) (n : Nat)
    (h : p → n % 0x40 + 0x80 ≤ high.toNat) :
    n % 0x40 + 0x80 ≤ (if p then high else 0xBF : UInt8).toNat := by
  by_cases hp : p
  · rw [if_pos hp]
    exact h hp
  · rw [if_neg hp]
    exact tail_le_high n

theorem decodeFrom_further (m n owed : Nat) (low high : UInt8) (rest : List UInt8)
    (h : m = n / 64) (howed : ¬owed ≤ 1) (hlow : low.toNat ≤ n % 0x40 + 0x80)
    (hhigh : n % 0x40 + 0x80 ≤ high.toNat) :
    decodeFrom (some ⟨m, owed, low, high⟩) (UInt8.ofNat (n % 0x40 + 0x80) :: rest) =
      decodeFrom (some ⟨n, owed - 1, 0x80, 0xBF⟩) rest := by
  rw [decodeFrom_admitted ⟨m, owed, low, high⟩ _ rest (tail_lt n) hlow hhigh, if_neg howed,
    value_tail m n h]

theorem decodeFrom_last (m n owed : Nat) (rest : List UInt8) (h : m = n / 64) (howed : owed ≤ 1) :
    decodeFrom (some ⟨m, owed, 0x80, 0xBF⟩) (UInt8.ofNat (n % 0x40 + 0x80) :: rest) =
      some (Char.ofNat n) :: decodeFrom none rest := by
  rw [decodeFrom_admitted ⟨m, owed, 0x80, 0xBF⟩ _ rest (tail_lt n) (low_le_tail n)
    (tail_le_high n), if_pos howed, value_tail m n h]

theorem decodeFrom_two (n : Nat) (rest : List UInt8) (h1 : 0x7f < n) (h2 : n ≤ 0x7ff) :
    decodeFrom none
        (UInt8.ofNat (n / 64 % 0x20 + 0xc0) :: UInt8.ofNat (n % 0x40 + 0x80) :: rest) =
      some (Char.ofNat n) :: decodeFrom none rest := by
  rw [decodeFrom, lead_ofNat _ (by omega), if_neg (by omega), if_neg (by omega), if_pos (by omega)]
  exact decodeFrom_last _ n 1 rest (by omega) (Nat.le_refl 1)

/-- The second of three bytes is bounded by the shortest spelling and by the gap of the surrogates.
-/
theorem decodeFrom_three (n : Nat) (rest : List UInt8) (h1 : 0x7ff < n) (h2 : n ≤ 0xffff)
    (hgap : n < 0xD800 ∨ 0xDFFF < n) :
    decodeFrom none
        (UInt8.ofNat (n / 4096 % 0x10 + 0xe0) :: UInt8.ofNat (n / 64 % 0x40 + 0x80) ::
          UInt8.ofNat (n % 0x40 + 0x80) :: rest) =
      some (Char.ofNat n) :: decodeFrom none rest := by
  have hfirst : n / 4096 % 0x10 = n / 4096 := Nat.mod_eq_of_lt (by omega)
  have hlow : (if n / 4096 + 0xe0 = 0xE0 then 0xA0 else 0x80 : UInt8).toNat ≤
      n / 64 % 0x40 + 0x80 := by
    apply ite_le_tail
    intro hlead
    change 0xA0 ≤ _
    omega
  have hhigh : n / 64 % 0x40 + 0x80 ≤
      (if n / 4096 + 0xe0 = 0xED then 0x9F else 0xBF : UInt8).toNat := by
    apply tail_le_ite
    intro hlead
    change _ ≤ 0x9F
    omega
  rw [hfirst, decodeFrom, lead_ofNat _ (by omega), if_neg (by omega), if_neg (by omega),
    if_neg (by omega), if_pos (by omega)]
  dsimp only
  rw [decodeFrom_further _ (n / 64) 2 _ _ _ (by omega) (by decide) hlow hhigh]
  exact decodeFrom_last _ n 1 rest rfl (Nat.le_refl 1)

/-- The second of four bytes is bounded by the shortest spelling and by the last code point. -/
theorem decodeFrom_four (n : Nat) (rest : List UInt8) (h1 : 0xffff < n) (h2 : n < 0x110000) :
    decodeFrom none
        (UInt8.ofNat (n / 262144 % 0x08 + 0xf0) :: UInt8.ofNat (n / 4096 % 0x40 + 0x80) ::
          UInt8.ofNat (n / 64 % 0x40 + 0x80) :: UInt8.ofNat (n % 0x40 + 0x80) :: rest) =
      some (Char.ofNat n) :: decodeFrom none rest := by
  have hfirst : n / 262144 % 0x08 = n / 262144 := Nat.mod_eq_of_lt (by omega)
  have hlow : (if n / 262144 + 0xf0 = 0xF0 then 0x90 else 0x80 : UInt8).toNat ≤
      n / 4096 % 0x40 + 0x80 := by
    apply ite_le_tail
    intro hlead
    change 0x90 ≤ _
    omega
  have hhigh : n / 4096 % 0x40 + 0x80 ≤
      (if n / 262144 + 0xf0 = 0xF4 then 0x8F else 0xBF : UInt8).toNat := by
    apply tail_le_ite
    intro hlead
    change _ ≤ 0x8F
    omega
  rw [hfirst, decodeFrom, lead_ofNat _ (by omega), if_neg (by omega), if_neg (by omega),
    if_neg (by omega), if_neg (by omega), if_pos (by omega)]
  dsimp only
  rw [decodeFrom_further _ (n / 4096) 3 _ _ _ (by omega) (by decide) hlow hhigh,
    decodeFrom_further _ (n / 64) 2 _ _ _ (by omega) (by decide) (low_le_tail (n / 64))
      (tail_le_high (n / 64))]
  exact decodeFrom_last _ n 1 rest rfl (Nat.le_refl 1)

theorem decodeFrom_encodeChar (c : Char) (rest : List UInt8) :
    decodeFrom none (String.utf8EncodeChar c ++ rest) = some c :: decodeFrom none rest := by
  have hvalid := toNat_bounds c
  have hc : Char.ofNat c.toNat = c := Char.ofNat_toNat c
  have hv : c.val.toNat = c.toNat := rfl
  generalize c.toNat = n at hvalid hc hv
  unfold String.utf8EncodeChar
  rw [hv, ← hc]
  dsimp only
  by_cases h1 : n ≤ 0x7f
  · rw [if_pos h1, List.singleton_append, decodeFrom, lead_ofNat n (by omega),
      if_pos (by omega)]
  by_cases h2 : n ≤ 0x7ff
  · rw [if_neg h1, if_pos h2]
    exact decodeFrom_two n rest (by omega) h2
  by_cases h3 : n ≤ 0xffff
  · rw [if_neg h1, if_neg h2, if_pos h3]
    exact decodeFrom_three n rest (by omega) h3 (by omega)
  · rw [if_neg h1, if_neg h2, if_neg h3]
    exact decodeFrom_four n rest (by omega) (by omega)

theorem decodeFrom_flatMap (text : List Char) :
    decodeFrom none (text.flatMap String.utf8EncodeChar) = text.map some := by
  induction text with
  | nil => rfl
  | cons c text ih => rw [List.flatMap_cons, decodeFrom_encodeChar, ih, List.map_cons]

theorem decode_flatMap (text : List Char) :
    decode (text.flatMap String.utf8EncodeChar) = text := by
  rw [decode, decodeFrom_flatMap, List.map_map]
  exact List.map_id text

theorem decodeExact_toUTF8 (text : List Char) :
    decodeExact (String.ofList text).toUTF8.toList = some text := by
  rw [toList_toUTF8, decodeExact, decodeFrom_flatMap, mapM_map_eq some id fun _ => rfl]

end Text

end Glean
