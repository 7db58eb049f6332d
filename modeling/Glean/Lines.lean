set_option autoImplicit false

/-!
# Lines

Lines end at a line feed and at nothing else. Positions are byte offsets into the UTF-8 form of a
text, lines are counted from 1. `Lines.Index` keeps where the lines start and answers by bisection
what `lineAt` answers by counting.
-/
namespace Glean

def byteSize : List Char → Nat
  | [] => 0
  | c :: text => c.utf8Size + byteSize text

@[simp] theorem byteSize_nil : byteSize [] = 0 := rfl

@[simp] theorem byteSize_cons (c : Char) (text : List Char) :
    byteSize (c :: text) = c.utf8Size + byteSize text := rfl

@[simp] theorem byteSize_append (s t : List Char) :
    byteSize (s ++ t) = byteSize s + byteSize t := by
  induction s with
  | nil => simp
  | cons c s ih => simp [ih, Nat.add_assoc]

/-- The characters whose first byte lies before a byte offset. -/
def takeBytes : Nat → List Char → List Char
  | 0, _ => []
  | _, [] => []
  | n + 1, c :: text => c :: takeBytes (n + 1 - c.utf8Size) text

namespace Lines

def breaks (text : List Char) : Nat := text.count '\n'

/-- The line of the byte at `offset`; an offset past the end counts as the end. -/
def lineAt (text : List Char) (offset : Nat) : Nat := breaks (takeBytes offset text) + 1

def columnAt (text : List Char) (offset : Nat) : Nat :=
  byteSize ((takeBytes offset text).reverse.takeWhile (· ≠ '\n'))

structure Place where
  row : Nat
  column : Nat
  deriving DecidableEq, Repr

def placeAt (text : List Char) (offset : Nat) : Place :=
  ⟨lineAt text offset - 1, columnAt text offset⟩

def startsFrom : Nat → List Char → List Nat
  | _, [] => []
  | offset, c :: text =>
    let next := offset + c.utf8Size
    if c = '\n' then next :: startsFrom next text else startsFrom next text

/-- Where every line but the first starts, in order, and the size of the text. -/
structure Index where
  starts : Array Nat
  size : Nat
  deriving Repr

def Index.ofText (text : List Char) : Index :=
  ⟨(startsFrom 0 text).toArray, byteSize text⟩

/-- The number of leading entries up to `bound`, for an array in ascending order: everything below
`lo` is known to be up to it and everything from `hi` on is known to exceed it. -/
def bisect (starts : Array Nat) (bound lo hi : Nat) : Nat :=
  if lo < hi then
    let middle := (lo + hi) / 2
    if starts.getD middle 0 ≤ bound then bisect starts bound (middle + 1) hi
    else bisect starts bound lo middle
  else lo
termination_by hi - lo

def Index.lineAt (index : Index) (offset : Nat) : Nat :=
  bisect index.starts (min offset index.size) 0 index.starts.size + 1

end Lines

end Glean
