import Glean.Pattern.Unicode.CaseFold

set_option autoImplicit false

/-!
# Sets of characters

A set of characters is a term, and membership is decided by walking it. Folding a set by case adds
every character that differs from a member only in case.
-/
namespace Glean

namespace Unicode

def hexValue? (c : Char) : Option Nat :=
  let n := c.toNat
  if 0x30 ≤ n ∧ n ≤ 0x39 then some (n - 0x30)
  else if 0x41 ≤ n ∧ n ≤ 0x46 then some (n - 0x41 + 10)
  else if 0x61 ≤ n ∧ n ≤ 0x66 then some (n - 0x61 + 10)
  else none

def ofHex (digits : List Char) : Nat :=
  (digits.filterMap hexValue?).foldl (fun n d => n * 16 + d) 0

def fields (isSeparator : Char → Bool) (text : List Char) : List (List Char) :=
  (text.splitOnP isSeparator).filter (· ≠ [])

/-- Reads ranges such as `41-5A B5`. -/
def readRanges (text : String) : List (Nat × Nat) :=
  (fields Char.isWhitespace text.toList).map fun piece =>
    match fields (· = '-') piece with
    | [lo, hi] => (ofHex lo, ofHex hi)
    | _ => (ofHex piece, ofHex piece)

def caseGroups : List (List Nat) :=
  (fields (· = ';') caseOrbits.toList).map fun orbit =>
    (fields Char.isWhitespace orbit).map ofHex

def caseVariants (c : Char) : List Char :=
  match caseGroups.find? (·.contains c.toNat) with
  | some group => group.map Char.ofNat
  | none => [c]

end Unicode

def asciiVariants (c : Char) : List Char :=
  if c.isUpper then [c, c.toLower] else if c.isLower then [c, c.toUpper] else [c]

/-- A folded set has all characters that differ from a member only in case, of ASCII letters alone
where it says so. -/
inductive CharSet
  | none
  | one (c : Char)
  | range (lo hi : Char)
  | ranges (rs : List (Nat × Nat))
  | union (s t : CharSet)
  | inter (s t : CharSet)
  | diff (s t : CharSet)
  | compl (s : CharSet)
  | folded (s : CharSet)
  | asciiFolded (s : CharSet)
  deriving Repr, Inhabited

namespace CharSet

def contains : CharSet → Char → Bool
  | none, _ => false
  | one d, c => c = d
  | range lo hi, c => lo ≤ c && c ≤ hi
  | ranges rs, c => rs.any fun r => r.1 ≤ c.toNat && c.toNat ≤ r.2
  | union s t, c => s.contains c || t.contains c
  | inter s t, c => s.contains c && t.contains c
  | diff s t, c => s.contains c && !t.contains c
  | compl s, c => !s.contains c
  | folded s, c => (Unicode.caseVariants c).any s.contains
  | asciiFolded s, c => (asciiVariants c).any s.contains

def symmDiff (s t : CharSet) : CharSet := union (diff s t) (diff t s)

def ofText (text : String) : CharSet := ranges (Unicode.readRanges text)

/-- Whether no character from U+0080 to U+00FF is a member. -/
def isAscii (s : CharSet) : Bool := (List.range 128).all fun i => !s.contains (Char.ofNat (128 + i))

@[simp] theorem contains_union (s t : CharSet) (c : Char) :
    (union s t).contains c = (s.contains c || t.contains c) := rfl

@[simp] theorem contains_compl (s : CharSet) (c : Char) :
    (compl s).contains c = !s.contains c := rfl

@[simp] theorem contains_range (lo hi c : Char) :
    (range lo hi).contains c = (decide (lo ≤ c) && decide (c ≤ hi)) := rfl

end CharSet

end Glean
