import Glean.Script.Literal

set_option autoImplicit false

/-!
# Cursors

A place in a script, with the literals found in front of it. A cursor only moves forward, and a
literal is only added where it is passed: `Cursor.Reaches` is what can become of a cursor, whatever
is read.
-/
namespace Glean.Script

/-- What is known of what comes next: a token, a place where a statement may end as if there were a
semicolon, or the question mark of a conditional expression. -/
inductive Ahead
  | token
  | semicolon
  | question
  deriving DecidableEq, Repr

structure Cursor where
  dialect : Dialect
  rest : List Char
  offset : Nat := 0
  ahead : Option Ahead := none
  literals : List Literal := []
  deriving Inhabited

namespace Cursor

def pass (c : Cursor) (n : Nat) : Cursor :=
  { c with rest := c.rest.drop n, offset := c.offset + byteSize (c.rest.take n), ahead := none }

def record (c : Cursor) (n : Nat) : Cursor :=
  { c.pass n with literals := ⟨c.offset, c.rest.take n⟩ :: c.literals }

/-- What can become of a cursor. -/
inductive Reaches : Cursor → Cursor → Prop
  | pass (c : Cursor) (n : Nat) : Reaches c (c.pass n)
  | record (c : Cursor) (n : Nat) (h : c.dialect.isLiteral (c.rest.take n)) :
      Reaches c (c.record n)
  | notice (c : Cursor) (ahead : Option Ahead) : Reaches c { c with ahead }
  | trans {a b c : Cursor} : Reaches a b → Reaches b c → Reaches a c

theorem Reaches.refl (c : Cursor) : Reaches c c := .notice c c.ahead

end Cursor

end Glean.Script
