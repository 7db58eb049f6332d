set_option autoImplicit false

/-!
# Pages

A text with random access, and for every place of it the number of bytes and of line feeds in front.
-/
namespace Glean.Markup

structure Page where
  chars : Array Char
  bytes : Array Nat
  breaks : Array Nat

namespace Page

def sums (measure : Char → Nat) : Nat → List Char → List Nat
  | n, [] => [n]
  | n, c :: text => n :: sums measure (n + measure c) text

def ofText (text : List Char) : Page where
  chars := text.toArray
  bytes := (sums Char.utf8Size 0 text).toArray
  breaks := (sums (fun c => if c = '\n' then 1 else 0) 0 text).toArray

def size (s : Page) : Nat := s.chars.size

/-- The character at a place. NUL stands for the end, as it does where it is written. -/
def char (s : Page) (i : Nat) : Char := s.chars.getD i '\x00'

def byteAt (s : Page) (i : Nat) : Nat := s.bytes.getD i 0

def bytesIn (s : Page) (i j : Nat) : Nat := s.byteAt j - s.byteAt i

def breaksIn (s : Page) (i j : Nat) : Nat := s.breaks.getD j 0 - s.breaks.getD i 0

/-- The end of the longest run from a place on of at most `n` characters, NUL aside, that satisfy a
condition. -/
def spanWithin (s : Page) (p : Char → Bool) : Nat → Nat → Nat
  | 0, i => i
  | n + 1, i => if s.char i ≠ '\x00' ∧ p (s.char i) then spanWithin s p n (i + 1) else i

def spanEnd (s : Page) (p : Char → Bool) (i : Nat) : Nat := s.spanWithin p (s.size - i) i

end Page

end Glean.Markup
