set_option autoImplicit false

/-!
# Reading UTF-8 bytes

`decode` turns any bytes into characters. A sequence that can no longer become a character is
replaced by one U+FFFD as soon as the offending byte is seen, and that byte is then read afresh, so
a line feed always comes out as itself. `decodeExact` refuses such bytes instead.
-/
namespace Glean.Text

def replacement : Char := '\uFFFD'

/-- A character of which some bytes have been read: their value so far, how many bytes are owed,
and between which bounds the next one must lie. -/
structure Partial where
  value : Nat
  owed : Nat
  low : UInt8
  high : UInt8
  deriving DecidableEq, Repr

inductive Lead
  | char (c : Char)
  | more (p : Partial)
  | bad
  deriving DecidableEq, Repr

/-- The second byte of a character is narrowed so that no character has two spellings, no
surrogate is spelled and nothing lies above U+10FFFF. -/
def lead (b : UInt8) : Lead :=
  let n := b.toNat
  if n < 0x80 then .char (Char.ofNat n)
  else if n < 0xC2 then .bad
  else if n < 0xE0 then .more ⟨n - 0xC0, 1, 0x80, 0xBF⟩
  else if n < 0xF0 then
    .more ⟨n - 0xE0, 2, if n = 0xE0 then 0xA0 else 0x80, if n = 0xED then 0x9F else 0xBF⟩
  else if n < 0xF5 then
    .more ⟨n - 0xF0, 3, if n = 0xF0 then 0x90 else 0x80, if n = 0xF4 then 0x8F else 0xBF⟩
  else .bad

def Partial.push (p : Partial) (b : UInt8) : Partial :=
  ⟨p.value * 64 + (b.toNat - 0x80), p.owed - 1, 0x80, 0xBF⟩

def Partial.admits (p : Partial) (b : UInt8) : Bool := p.low ≤ b && b ≤ p.high

/-- Reads on from a partial character, if there is one; `none` marks bytes that are no character. -/
def decodeFrom : Option Partial → List UInt8 → List (Option Char)
  | none, [] => []
  | some _, [] => [none]
  | none, b :: bs =>
    match lead b with
    | .char c => some c :: decodeFrom none bs
    | .more p => decodeFrom (some p) bs
    | .bad => none :: decodeFrom none bs
  | some p, b :: bs =>
    if p.admits b then
      if p.owed ≤ 1 then some (Char.ofNat (p.push b).value) :: decodeFrom none bs
      else decodeFrom (some (p.push b)) bs
    else
      match lead b with
      | .char c => none :: some c :: decodeFrom none bs
      | .more q => none :: decodeFrom (some q) bs
      | .bad => none :: none :: decodeFrom none bs

def decode (bytes : List UInt8) : List Char :=
  (decodeFrom none bytes).map (·.getD replacement)

def decodeExact (bytes : List UInt8) : Option (List Char) :=
  (decodeFrom none bytes).mapM id

end Glean.Text
