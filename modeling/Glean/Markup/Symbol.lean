set_option autoImplicit false

/-!
# Symbols of markup

The terminals and phrases that markup is made of, and the kinds of nodes a reader of the tree sees.
Some symbols are known to the reader under the name of another, and some are not shown at all.
-/
namespace Glean.Markup

inductive Raw
  | script
  | style
  deriving DecidableEq, Repr, Inhabited

inductive Quote
  | single
  | double
  deriving DecidableEq, Repr, Inhabited

inductive Sym
  | stop
  | declOpen
  | doctypeText
  | close
  | doctypeWord
  | tagOpen
  | selfClose
  | endOpen
  | equals
  | attributeName
  | attributeValue
  | entity
  | quote (q : Quote)
  | quoted (q : Quote)
  | text
  | startName
  | rawName (k : Raw)
  | endName
  | strayName
  | implicitEnd
  | rawText
  | comment
  | document
  | doctype
  | part
  | element
  | rawElement (k : Raw)
  | startTag
  | rawStartTag (k : Raw)
  | selfClosingTag
  | endTag
  | strayTag
  | attr
  | quotedValue
  | parts
  | attributes
  | error
  | passed
  deriving DecidableEq, Repr, Inhabited

/-- The terminals but the end, in the order in which one is tried where one is missing. -/
def Sym.terminals : List Sym :=
  [.declOpen, .doctypeText, .close, .doctypeWord, .tagOpen, .selfClose, .endOpen, .equals,
    .attributeName, .attributeValue, .entity, .quote .single, .quoted .single, .quote .double,
    .quoted .double, .text, .startName, .rawName .script, .rawName .style, .endName, .strayName,
    .implicitEnd, .rawText, .comment]

inductive Kind
  | document
  | doctype
  | doctypeWord
  | element
  | scriptElement
  | styleElement
  | startTag
  | rawStartTag
  | selfClosingTag
  | endTag
  | strayTag
  | strayName
  | tagName
  | attr
  | attributeName
  | attributeValue
  | quotedValue
  | text
  | entity
  | rawText
  | comment
  | error
  deriving DecidableEq, Repr, Inhabited

namespace Sym

/-- Signs are shown but have no name. -/
def isSign : Sym → Bool
  | declOpen | close | tagOpen | selfClose | endOpen | equals | quote _ => true
  | _ => false

def kind? : Sym → Option Kind
  | document => some .document
  | doctype => some .doctype
  | element => some .element
  | rawElement .script => some .scriptElement
  | rawElement .style => some .styleElement
  | startTag => some .startTag
  | rawStartTag _ => some .rawStartTag
  | selfClosingTag => some .selfClosingTag
  | endTag => some .endTag
  | strayTag => some .strayTag
  | strayName => some .strayName
  | attr => some .attr
  | attributeName => some .attributeName
  | attributeValue => some .attributeValue
  | quotedValue => some .quotedValue
  | text => some .text
  | entity => some .entity
  | rawText => some .rawText
  | comment => some .comment
  | error => some .error
  | _ => none

def alias? : Sym → Option Kind
  | doctypeWord => some .doctypeWord
  | startName | rawName _ | endName => some .tagName
  | rawStartTag _ => some .startTag
  | quoted _ => some .attributeValue
  | _ => none

def isVisible (s : Sym) : Bool := s.isSign || s.kind?.isSome

def isFault : Sym → Bool
  | error | passed => true
  | _ => false

end Sym

end Glean.Markup
