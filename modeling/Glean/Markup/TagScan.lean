import Glean.Markup.Lexer
import Glean.Markup.Tag

set_option autoImplicit false

/-!
# Tokens that depend on the open tags

Tag names, raw text, comments and the ends of elements that have no end tag are found by looking at
the tags that are open, and change them.
-/
namespace Glean.Markup

/-- A token with its place and the tags that are open behind it, innermost first. -/
structure Scanned where
  sym : Sym
  start : Nat
  stop : Nat
  tags : List Tag
  deriving Repr

structure Wanted where
  startName : Bool
  endName : Bool
  selfClose : Bool
  implicitEnd : Bool
  rawText : Bool
  deriving DecidableEq, Repr

/-- The tokens that a state can do something with. In an error any is looked for. -/
def State.wanted (s : State) : Wanted :=
  let can (t : Sym) : Bool := s = .fault || s.action t ≠ []
  ⟨can .startName || can (.rawName .script), can .endName, can .selfClose, can .implicitEnd,
    can .rawText⟩

def isTagNameChar (c : Char) : Bool := c.isAlphanum || c = '-' || c = ':'

def Page.nameAt (s : Page) (i : Nat) : String × Nat :=
  let stop := s.spanEnd isTagNameChar i
  (String.ofList ((s.chars.extract i stop).toList.map Char.toUpper), stop)

/-- Raw text ends in front of what may be its end tag. A mismatch begins the search afresh behind
itself. -/
def rawTextEnd (s : Page) (delimiter : List Char) : Nat → List Char → Nat → Nat → Nat
  | 0, _, _, last => last
  | n + 1, wanted, i, last =>
    if s.char i = '\x00' then last
    else
      match wanted with
      | c :: rest =>
        if (s.char i).toUpper = c then
          if rest = [] then last else rawTextEnd s delimiter n rest (i + 1) last
        else rawTextEnd s delimiter n delimiter (i + 1) (i + 1)
      | [] => last

def scanRawText (s : Page) (tags : List Tag) (i : Nat) : Option Scanned :=
  match tags with
  | [] => none
  | t :: _ =>
    let delimiter := if t = .known "SCRIPT" then "</SCRIPT" else "</STYLE"
    let stop := rawTextEnd s delimiter.toList (s.size + 1 - i) delimiter.toList i i
    some ⟨.rawText, i, stop, tags⟩

def commentEnd (s : Page) : Nat → Nat → Nat → Option Nat
  | 0, _, _ => none
  | n + 1, hyphens, i =>
    match s.char i with
    | '\x00' => none
    | '-' => commentEnd s n (hyphens + 1) (i + 1)
    | '>' => if 2 ≤ hyphens then some (i + 1) else commentEnd s n 0 (i + 1)
    | _ => commentEnd s n 0 (i + 1)

/-- The end of an element without an end tag, before `<` or the end of the source. It is read from
behind the `<`, and is empty. -/
def scanImplicitEnd (s : Page) (tags : List Tag) (start i : Nat) : Option Scanned :=
  let token (tags : List Tag) : Option Scanned := some ⟨.implicitEnd, start, start, tags⟩
  if s.char i = '/' then
    let (name, stop) := s.nameAt (i + 1)
    let closed := Tag.ofName name
    if name = "" ∧ stop < s.size ∨ tags.head? = some closed then none
    else if tags.any (·.isLike closed) then token tags.tail
    else none
  else
    match tags with
    | [] => none
    | parent :: rest =>
      let (name, stop) := s.nameAt i
      let isOuter := parent.isNamed ["HTML", "HEAD", "BODY"] && s.size ≤ stop
      if parent.isVoid then token rest
      else if name = "" ∧ stop < s.size then none
      else if !parent.canContain (.ofName name) || isOuter then token rest
      else none

def scanName (s : Page) (wanted : Wanted) (tags : List Tag) (i : Nat) : Option Scanned :=
  let (name, stop) := s.nameAt i
  if name = "" then none
  else
    let t := Tag.ofName name
    if wanted.startName then
      let sym := match t with
        | .known "SCRIPT" => Sym.rawName .script
        | .known "STYLE" => .rawName .style
        | _ => .startName
      some ⟨sym, i, stop, t :: tags⟩
    else if tags.head? = some t then some ⟨.endName, i, stop, tags.tail⟩
    else some ⟨.strayName, i, stop, tags⟩

def scanTag (s : Page) (wanted : Wanted) (tags : List Tag) (i : Nat) : Option Scanned :=
  let i := s.begin i
  if wanted.rawText && !wanted.startName && !wanted.endName then scanRawText s tags i
  else
    let i := s.spanEnd isSpace i
    match s.char i with
    | '<' =>
      if s.char (i + 1) = '!' then
        if s.char (i + 2) = '-' ∧ s.char (i + 3) = '-' then
          (commentEnd s (s.size + 1 - i) 0 (i + 4)).map fun stop => ⟨.comment, i, stop, tags⟩
        else none
      else if wanted.implicitEnd then scanImplicitEnd s tags i (i + 1)
      else none
    | '\x00' => if wanted.implicitEnd then scanImplicitEnd s tags i i else none
    | '/' =>
      if wanted.selfClose && s.char (i + 1) = '>' then
        match tags with
        | _ :: rest => some ⟨.selfClose, i, i + 2, rest⟩
        | [] => some ⟨.startName, i, i + 2, []⟩
      else none
    | _ =>
      if (wanted.startName || wanted.endName) && !wanted.rawText then scanName s wanted tags i
      else none

end Glean.Markup
