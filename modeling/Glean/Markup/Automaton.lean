import Glean.Markup.Symbol

set_option autoImplicit false

/-!
# The automaton of markup

Markup is a sequence of parts: text, entities, document types, elements and end tags that end
nothing. A state tells what of a phrase has been read, and whether the phrase stands at the top of
the document or inside an element. `action` is what may be done before a terminal, `goto` where a
finished phrase leads.
-/
namespace Glean.Markup

inductive Level
  | top
  | inside
  deriving DecidableEq, Repr, Inhabited

/-- What has been read of the innermost phrase. A state that ends in `ing` is behind `</`, where an
element with raw text, any element or none can end; in `fault` tokens are passed over. -/
inductive State
  | fault
  | start
  | document
  | first
  | more (l : Level)
  | opened (l : Level)
  | filled (l : Level)
  | rawOpened (l : Level) (k : Raw)
  | rawFilled (l : Level) (k : Raw)
  | rawEnding (l : Level)
  | ending (l : Level)
  | straying (l : Level)
  | declared (l : Level)
  | doctypeWord (l : Level)
  | doctypeText (l : Level)
  | doctypeDone (l : Level)
  | tagOpen (l : Level)
  | tagName (l : Level)
  | rawName (k : Raw)
  | attributed (l : Level)
  | rawAttributed (k : Raw)
  | attributes (isRaw : Bool)
  | startDone (attributed : Bool)
  | selfDone (l : Level) (attributed : Bool)
  | rawStartDone (k : Raw) (attributed : Bool)
  | attributeName (isRaw : Bool)
  | equals (isRaw : Bool)
  | attributeDone (isRaw : Bool)
  | quoteOpen (isRaw : Bool) (q : Quote)
  | quoteText (isRaw : Bool) (q : Quote)
  | quoteDone (isRaw : Bool) (filled : Bool)
  | strayName (l : Level)
  | strayDone (l : Level)
  | endName (l : Level)
  | endDone (l : Level)
  | elementEmpty (l : Level)
  | elementFull (l : Level)
  | elementSelf (l : Level)
  | rawElement (l : Level) (k : Raw) (filled : Bool)
  deriving DecidableEq, Repr, Inhabited

/-- What `shiftOn` shifts belongs to a repetition that is taken up only after it was reduced; what
`shiftExtra` shifts may stand anywhere. -/
inductive Action
  | shift (next : State)
  | shiftOn (next : State)
  | shiftExtra
  | reduce (sym : Sym) (size : Nat)
  | accept
  | recover
  deriving DecidableEq, Repr, Inhabited

def Level.follows (l : Level) (t : Sym) : Bool :=
  match t, l with
  | .declOpen, _ | .tagOpen, _ | .endOpen, _ | .entity, _ | .text, _ => true
  | .stop, .top => true
  | .implicitEnd, .inside => true
  | _, _ => false

def Level.reduce (l : Level) (sym : Sym) (size : Nat) (t : Sym) : List Action :=
  if l.follows t then [.reduce sym size] else []

/-- The beginning of a part inside an element, where `</` leads to a given state. -/
def insidePart (single ending : State) : Sym → Option State
  | .declOpen => some (.declared .inside)
  | .tagOpen => some (.tagOpen .inside)
  | .endOpen => some ending
  | .entity => some single
  | .text => some single
  | _ => none

def topPart (single : State) : Sym → Option State
  | .declOpen => some (.declared .top)
  | .tagOpen => some (.tagOpen .top)
  | .endOpen => some (.straying .top)
  | .entity => some single
  | .text => some single
  | _ => none

def shiftTo : Option State → List Action
  | some s => [.shift s]
  | none => []

def followsAttribute (isRaw : Bool) : Sym → Bool
  | .close | .attributeName => true
  | .selfClose => !isRaw
  | _ => false

def Sym.endsFault : Sym → Bool
  | .stop | .declOpen | .close | .doctypeWord | .tagOpen | .selfClose | .endOpen | .equals
  | .entity | .quote _ | .startName | .rawName _ | .endName | .strayName | .implicitEnd | .rawText
  | .comment => true
  | _ => false

/-- What may be done before a terminal that is no comment. -/
def State.actionAt (s : State) (t : Sym) : List Action :=
  match s, t with
  | fault, t => if t.endsFault then [.recover] else []
  | start, .stop => [.reduce .document 0]
  | start, t => shiftTo (topPart first t)
  | document, .stop => [.accept]
  | first, .stop => [.reduce .document 1]
  | first, t => shiftTo (topPart (more .top) t)
  | more .top, .stop => [.reduce .parts 2]
  | more .top, t =>
    match topPart (more .top) t with
    | some s => [.reduce .parts 2, .shiftOn s]
    | none => []
  | more .inside, .implicitEnd => [.reduce .parts 2]
  | more .inside, t =>
    match insidePart (more .inside) (straying .inside) t with
    | some s => [.reduce .parts 2, .shiftOn s]
    | none => []
  | opened l, .implicitEnd => [.shift (elementEmpty l)]
  | opened l, t => shiftTo (insidePart (filled l) (ending l) t)
  | filled l, .implicitEnd => [.shift (elementFull l)]
  | filled l, t => shiftTo (insidePart (more .inside) (ending l) t)
  | rawOpened l k, .rawText => [.shift (rawFilled l k)]
  | rawOpened l _, .endOpen => [.shift (rawEnding l)]
  | rawFilled l _, .endOpen => [.shift (rawEnding l)]
  | rawEnding l, .endName => [.shift (endName l)]
  | ending l, .endName => [.shift (endName l)]
  | ending _, .strayName => [.shift (strayName .inside)]
  | straying l, .strayName => [.shift (strayName l)]
  | declared l, .doctypeWord => [.shift (doctypeWord l)]
  | doctypeWord l, .doctypeText => [.shift (doctypeText l)]
  | doctypeText l, .close => [.shift (doctypeDone l)]
  | doctypeDone l, t => l.reduce .doctype 4 t
  | tagOpen l, .startName => [.shift (tagName l)]
  | tagOpen _, .rawName k => [.shift (rawName k)]
  | tagName _, .close => [.shift (startDone false)]
  | tagName l, .selfClose => [.shift (selfDone l false)]
  | tagName _, .attributeName => [.shift (attributeName false)]
  | rawName k, .close => [.shift (rawStartDone k false)]
  | rawName _, .attributeName => [.shift (attributeName true)]
  | attributed _, .close => [.shift (startDone true)]
  | attributed l, .selfClose => [.shift (selfDone l true)]
  | attributed _, .attributeName => [.shift (attributeName false)]
  | rawAttributed k, .close => [.shift (rawStartDone k true)]
  | rawAttributed _, .attributeName => [.shift (attributeName true)]
  | attributes isRaw, .attributeName => [.reduce .attributes 2, .shiftOn (attributeName isRaw)]
  | attributes isRaw, t =>
    if t = .close ∨ (t = .selfClose ∧ !isRaw) then [.reduce .attributes 2] else []
  | startDone a, t => Level.inside.reduce .startTag (if a then 4 else 3) t
  | selfDone l a, t => l.reduce .selfClosingTag (if a then 4 else 3) t
  | rawStartDone k a, t =>
    if t = .endOpen ∨ t = .rawText then [.reduce (.rawStartTag k) (if a then 4 else 3)] else []
  | attributeName isRaw, .equals => [.shift (equals isRaw)]
  | attributeName isRaw, t => if followsAttribute isRaw t then [.reduce .attr 1] else []
  | equals isRaw, .attributeValue => [.shift (attributeDone isRaw)]
  | equals isRaw, .quote q => [.shift (quoteOpen isRaw q)]
  | attributeDone isRaw, t => if followsAttribute isRaw t then [.reduce .attr 3] else []
  | quoteOpen isRaw q, .quote r => if q = r then [.shift (quoteDone isRaw false)] else []
  | quoteOpen isRaw q, .quoted r => if q = r then [.shift (quoteText isRaw q)] else []
  | quoteText isRaw q, .quote r => if q = r then [.shift (quoteDone isRaw true)] else []
  | quoteDone isRaw b, t =>
    if followsAttribute isRaw t then [.reduce .quotedValue (if b then 3 else 2)] else []
  | strayName l, .close => [.shift (strayDone l)]
  | strayDone l, t => l.reduce .strayTag 3 t
  | endName l, .close => [.shift (endDone l)]
  | endDone l, t => l.reduce .endTag 3 t
  | elementEmpty l, t => l.reduce .element 2 t
  | elementFull l, t => l.reduce .element 3 t
  | elementSelf l, t => l.reduce .element 1 t
  | rawElement l k b, t => l.reduce (.rawElement k) (if b then 3 else 2) t
  | _, _ => []

def State.action (s : State) (t : Sym) : List Action :=
  match s, t with
  | fault, t => s.actionAt t
  | _, .comment => [.shiftExtra]
  | _, t => s.actionAt t

/-- Where a part of the content leads, and the start tags and self-closing tags that begin one. -/
def partGoto (l : Level) (part : State) : Sym → Option State
  | .doctype | .part | .element | .rawElement _ | .strayTag | .parts => some part
  | .startTag => some (.opened l)
  | .rawStartTag k => some (.rawOpened l k)
  | .selfClosingTag => some (.elementSelf l)
  | _ => none

def State.goto (s : State) (phrase : Sym) : Option State :=
  match s, phrase with
  | start, .document => some document
  | start, p => partGoto .top first p
  | first, p => partGoto .top (more .top) p
  | more .top, p => partGoto .top (more .top) p
  | more .inside, p => partGoto .inside (more .inside) p
  | opened l, .endTag => some (elementEmpty l)
  | opened l, p => partGoto .inside (filled l) p
  | filled l, .endTag => some (elementFull l)
  | filled _, p => partGoto .inside (more .inside) p
  | rawOpened l k, .endTag => some (rawElement l k false)
  | rawFilled l k, .endTag => some (rawElement l k true)
  | tagName l, .attr => some (attributed l)
  | tagName l, .attributes => some (attributed l)
  | rawName k, .attr => some (rawAttributed k)
  | rawName k, .attributes => some (rawAttributed k)
  | attributed _, .attr => some (attributes false)
  | attributed _, .attributes => some (attributes false)
  | rawAttributed _, .attr => some (attributes true)
  | rawAttributed _, .attributes => some (attributes true)
  | attributes isRaw, .attr => some (attributes isRaw)
  | attributes isRaw, .attributes => some (attributes isRaw)
  | equals isRaw, .quotedValue => some (attributeDone isRaw)
  | _, _ => none

/-- Where a terminal leads, shifted at once or later. -/
def State.after (s : State) (t : Sym) : Option State :=
  match (s.action t).getLast? with
  | some (.shift next) => some next
  | some (.shiftOn next) => some next
  | some .shiftExtra => some s
  | _ => none

inductive Mode
  | any
  | content
  | doctype
  | tag
  | value
  | quoted (q : Quote)
  deriving DecidableEq, Repr, Inhabited

def State.mode : State → Mode
  | start | first | more _ | opened _ | filled _ | doctypeDone _ | startDone _ | selfDone _ _
  | strayDone _ | endDone _ | elementEmpty _ | elementFull _ | elementSelf _
  | rawElement _ _ _ => .content
  | doctypeWord _ => .doctype
  | tagName _ | rawName _ | attributed _ | rawAttributed _ | attributes _ | attributeName _
  | attributeDone _ | quoteDone _ _ => .tag
  | equals _ => .value
  | quoteOpen _ q => .quoted q
  | _ => .any

end Glean.Markup
