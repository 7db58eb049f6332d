set_option autoImplicit false

/-!
# Open tags

The names of the tags that are open decide which end tag ends an element, which elements end by
themselves, and where raw text begins. Names are compared in capitals. A tag whose name is not one
of HTML is a custom one; an end tag looks for any custom tag among those that are open.
-/
namespace Glean.Markup

inductive Tag
  | known (name : String)
  | custom (name : String)
  | lost
  deriving DecidableEq, Repr, Inhabited

namespace Tag

def voidNames : List String :=
  ["AREA", "BASE", "BASEFONT", "BGSOUND", "BR", "COL", "COMMAND", "EMBED", "FRAME", "HR", "IMAGE",
    "IMG", "INPUT", "ISINDEX", "KEYGEN", "LINK", "MENUITEM", "META", "NEXTID", "PARAM", "SOURCE",
    "TRACK", "WBR"]

def contentNames : List String :=
  ["A", "ABBR", "ADDRESS", "ARTICLE", "ASIDE", "AUDIO", "B", "BDI", "BDO", "BLOCKQUOTE", "BODY",
    "BUTTON", "CANVAS", "CAPTION", "CITE", "CODE", "COLGROUP", "DATA", "DATALIST", "DD", "DEL",
    "DETAILS", "DFN", "DIALOG", "DIV", "DL", "DT", "EM", "FIELDSET", "FIGCAPTION", "FIGURE",
    "FOOTER", "FORM", "H1", "H2", "H3", "H4", "H5", "H6", "HEAD", "HEADER", "HGROUP", "HTML", "I",
    "IFRAME", "INS", "KBD", "LABEL", "LEGEND", "LI", "MAIN", "MAP", "MARK", "MATH", "MENU", "METER",
    "NAV", "NOSCRIPT", "OBJECT", "OL", "OPTGROUP", "OPTION", "OUTPUT", "P", "PICTURE", "PRE",
    "PROGRESS", "Q", "RB", "RP", "RT", "RTC", "RUBY", "S", "SAMP", "SCRIPT", "SECTION", "SELECT",
    "SLOT", "SMALL", "SPAN", "STRONG", "STYLE", "SUB", "SUMMARY", "SUP", "SVG", "TABLE", "TBODY",
    "TD", "TEMPLATE", "TEXTAREA", "TFOOT", "TH", "THEAD", "TIME", "TITLE", "TR", "U", "UL", "VAR",
    "VIDEO"]

def blockNames : List String :=
  ["ADDRESS", "ARTICLE", "ASIDE", "BLOCKQUOTE", "DETAILS", "DIV", "DL", "FIELDSET", "FIGCAPTION",
    "FIGURE", "FOOTER", "FORM", "H1", "H2", "H3", "H4", "H5", "H6", "HEADER", "HR", "MAIN", "NAV",
    "OL", "P", "PRE", "SECTION"]

def ofName (name : String) : Tag :=
  if voidNames.contains name || contentNames.contains name then known name else custom name

def isNamed (t : Tag) (names : List String) : Bool :=
  match t with
  | known name => names.contains name
  | _ => false

def isVoid (t : Tag) : Bool := t.isNamed voidNames

def isLike : Tag → Tag → Bool
  | known a, known b => a = b
  | custom _, custom _ => true
  | lost, lost => true
  | _, _ => false

def canContain (t child : Tag) : Bool :=
  match t with
  | known "LI" => !child.isNamed ["LI"]
  | known "DT" | known "DD" => !child.isNamed ["DT", "DD"]
  | known "P" => !child.isNamed blockNames
  | known "COLGROUP" => child.isNamed ["COL"]
  | known "RB" | known "RT" | known "RP" => !child.isNamed ["RB", "RT", "RP"]
  | known "OPTGROUP" => !child.isNamed ["OPTGROUP"]
  | known "TR" => !child.isNamed ["TR"]
  | known "TD" | known "TH" => !child.isNamed ["TD", "TH", "TR"]
  | _ => true

/-- The room that is left for names behind the outermost tags, which are remembered first: a known
name takes one unit, a custom one two and its length, of which at most 255 count. -/
def rememberFrom : Nat → List Tag → List Tag
  | _, [] => []
  | used, t :: tags =>
    match t with
    | known name =>
      if 1024 ≤ used + 1 then (t :: tags).map fun _ => lost
      else known name :: rememberFrom (used + 1) tags
    | custom name =>
      let name := String.ofList (name.toList.take 255)
      if 1024 ≤ used + 2 + name.length then (t :: tags).map fun _ => lost
      else custom name :: rememberFrom (used + 2 + name.length) tags
    | lost => if 1024 ≤ used + 1 then (t :: tags).map fun _ => lost
      else lost :: rememberFrom (used + 1) tags

def remember (tags : List Tag) : List Tag := (rememberFrom 4 tags.reverse).reverse

end Tag

end Glean.Markup
