import Glean.Language
import Glean.Markup.Reading
import Glean.Script.Grammar

set_option autoImplicit false

/-!
# Literals

The string literals of a text in any language. Data is read as a plain script, and so is a script
with elements but without types. A page has no literals of its own; it is well-formed if reading it
costs nothing.
-/
namespace Glean.Language

def dialect : Language → Script.Dialect
  | typescript => .typed
  | tsx => .typedElements
  | _ => .plain

def literals? (l : Language) (text : List Char) : Option (List Script.Literal) :=
  match l.family with
  | .markup => if (Markup.Page.ofText text).tree.cost = 0 then some [] else none
  | _ => Script.literals? l.dialect text

end Glean.Language
