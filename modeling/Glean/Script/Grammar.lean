import Glean.Script.Declaration

set_option autoImplicit false

/-!
# The grammar of scripts

The parsers for all goals, tied together. How deep they may call one another is bounded by the
length of the script, since every few calls pass over a character.
-/
namespace Glean.Script
namespace Parser

def step (parts : Parts) : Goal → Parser Shape
  | .expression p => expression parts p
  | .expressions p => expressions parts p
  | .operand p => operand parts p
  | .creation p => creation parts p
  | .statement => plain (anyStatement parts)
  | .block operand => plain (block parts operand)
  | .signature f => plain (signature parts f)
  | .classBody => plain (classBody parts)
  | .element => element parts
  | .type f => plain (type parts f)
  | .result f => plain (result parts f)
  | .typeArguments f => plain (typeArguments parts f)
  | .typeParameters => plain (typeParameters parts)
where
  plain (p : Parser Unit) : Parser Shape := do
    p
    return .plain

/-- The parser for a goal, where calls go `n` deep at most. -/
def ofGoal : Nat → Goal → Parser Shape
  | 0, _ => fail
  | n + 1, g => step (ofGoal n) g

end Parser

@[irreducible] def literals? (d : Dialect) (text : List Char) : Option (List Literal) :=
  let fuel := 8 * text.length + 64
  ((Parser.script (Parser.ofGoal fuel)).run { dialect := d, rest := text }).map fun (_, c) =>
    c.literals.reverse

end Glean.Script
