import Glean.Language
import Glean.Markup.Node

set_option autoImplicit false

/-!
# Documents

What matters of a page: tags with their attributes, runs of text, scripts, and the places of styles
and comments. A run of text reaches from the end of what is in front of it to the end of its last
text or entity. An error stands for what is inside it.
-/
namespace Glean.Markup

structure Value where
  content : List Char
  start : Nat
  deriving DecidableEq, Repr

structure Attribute where
  name : List Char
  value : Option Value
  deriving DecidableEq, Repr

/-- Offsets are in bytes. -/
inductive Item
  | tag (name : List Char) (start : Nat) (attributes : List Attribute) (children : List Item)
  | text (start : Nat) (content : List Char)
  | script (start : Nat) (language : Language) (content : List Char)
  | style (start : Nat)
  | comment (start : Nat)
  deriving Repr

def Page.text (s : Page) (start stop : Nat) : List Char := (s.chars.extract start stop).toList

namespace Node

def text (s : Page) (n : Node) : List Char := s.text n.start n.stop

def child? (n : Node) (kind : Kind) : Option Node := n.children.find? (·.kind = kind)

def opening? (n : Node) : Option Node := (n.child? .startTag).or (n.child? .selfClosingTag)

/-- The value of an attribute, which may stand in quotes. Empty quotes hold none. -/
def value? (s : Page) (n : Node) : Option Value :=
  let value := (n.child? .attributeValue).or
    ((n.child? .quotedValue).bind (·.child? .attributeValue))
  value.map fun v => ⟨v.text s, s.byteAt v.start⟩

def textOf (s : Page) (n : Node) (kind : Kind) : List Char :=
  ((n.child? kind).map (·.text s)).getD []

def attributes (s : Page) (n : Node) : List Attribute :=
  (n.children.filter (·.kind = .attr)).map fun a => ⟨a.textOf s .attributeName, a.value? s⟩

def language (s : Page) (tag : Option Node) : Language :=
  let attributes := (tag.map (·.attributes s)).getD []
  let lang := attributes.find? fun a => Language.fold (String.ofList a.name) = "lang"
  .ofAttribute ((lang.bind (·.value)).map fun v => String.ofList v.content)

def script (s : Page) (n : Node) : Item :=
  let tag := n.opening?
  let start := (tag.map (·.stop)).getD n.start
  let stop := max start (((n.child? .endTag).map (·.start)).getD n.stop)
  .script (s.byteAt start) (language s tag) (s.text start stop)

end Node

def Page.run (s : Page) (stop : Nat) : Option Nat → List Item
  | some start => [.text (s.byteAt start) (s.text start stop)]
  | none => []

mutual

def Node.items (s : Page) (last : Nat) : Node → List Item
  | ⟨kind, start, stop, children⟩ =>
    let n : Node := ⟨kind, start, stop, children⟩
    match kind with
    | .element =>
      let tag := n.opening?
      let name := (tag.map (·.textOf s .tagName)).getD []
      let attributes := (tag.map (·.attributes s)).getD []
      [.tag name (s.byteAt start) attributes (items s start none children)]
    | .scriptElement => [n.script s]
    | .styleElement => [.style (s.byteAt start)]
    | .comment => [.comment (s.byteAt start)]
    | .error => items s last none children
    | _ => []

/-- The items of some siblings. `last` is where the one in front of them ends, `run` where the run
of text begins that they may go on with. -/
def items (s : Page) (last : Nat) (run : Option Nat) : List Node → List Item
  | [] => s.run last run
  | n :: rest =>
    if n.kind = .text ∨ n.kind = .entity then items s n.stop (run.or (some last)) rest
    else s.run last run ++ n.items s last ++ items s n.stop none rest

end

def document (text : List Char) : List Item :=
  let page := Page.ofText text
  items page 0 none page.nodes

end Glean.Markup
