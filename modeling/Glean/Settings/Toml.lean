set_option autoImplicit false

/-!
# Settings text

Settings files are written in TOML. Read here are the parts of it that settings are made of: keys,
tables, strings of all four kinds, lists and inline tables. Numbers, truth values, dates and lists
of tables have no place in settings and are refused like any other fault.
-/
namespace Glean.Toml

inductive Value
  | text (s : List Char)
  | list (vs : List Value)
  | table (entries : List (List Char × Value))
  deriving Repr, Inhabited

abbrev Key := List (List Char)

inductive Statement
  | header (key : Key)
  | pair (key : Key) (value : Value)
  deriving Repr

def isBlank (c : Char) : Bool := c = ' ' || c = '\t'

def isPlain (c : Char) : Bool := c = '\t' || (0x20 ≤ c.toNat && c.toNat ≠ 0x7F)

def isBare (c : Char) : Bool := c.isAlphanum || c = '_' || c = '-'

def skipBlanks (cs : List Char) : List Char := cs.dropWhile isBlank

def skipComment (cs : List Char) : List Char :=
  match cs with
  | '#' :: rest => rest.dropWhile isPlain
  | cs => cs

def lineBreak? (cs : List Char) : Option (List Char) :=
  match cs with
  | '\n' :: rest => some rest
  | '\r' :: '\n' :: rest => some rest
  | _ => none

def skipGaps : Nat → List Char → List Char
  | 0, cs => cs
  | n + 1, cs =>
    let cs := skipComment (skipBlanks cs)
    match lineBreak? cs with
    | some rest => skipGaps n rest
    | none => cs

def hexDigit? (c : Char) : Option Nat :=
  if c.isDigit then some (c.toNat - 0x30)
  else if 'a' ≤ c ∧ c ≤ 'f' then some (c.toNat - 0x61 + 10)
  else if 'A' ≤ c ∧ c ≤ 'F' then some (c.toNat - 0x41 + 10)
  else none

def charOfHex? (digits : List Char) : Option Char := do
  let n ← digits.foldlM (fun n d => (hexDigit? d).map (n * 16 + ·)) 0
  if n < 0xD800 ∨ (0xDFFF < n ∧ n < 0x110000) then some (Char.ofNat n) else none

def escape? : Char → Option Char
  | 'b' => some '\x08'
  | 't' => some '\t'
  | 'n' => some '\n'
  | 'f' => some '\x0C'
  | 'r' => some '\r'
  | '"' => some '"'
  | '\\' => some '\\'
  | _ => none

def before (c : Char) (r : Option (List Char × List Char)) : Option (List Char × List Char) :=
  r.map fun (s, rest) => (c :: s, rest)

def basic : List Char → Option (List Char × List Char)
  | '"' :: rest => some ([], rest)
  | '\\' :: 'u' :: a :: b :: c :: d :: rest =>
    (charOfHex? [a, b, c, d]).bind fun x => before x (basic rest)
  | '\\' :: 'U' :: a :: b :: c :: d :: e :: f :: g :: h :: rest =>
    (charOfHex? [a, b, c, d, e, f, g, h]).bind fun x => before x (basic rest)
  | '\\' :: c :: rest => (escape? c).bind fun x => before x (basic rest)
  | c :: rest => if isPlain c then before c (basic rest) else none
  | [] => none

def hidesBreak (cs : List Char) : Bool := (lineBreak? (skipBlanks cs)).isSome

/-- Reads a string over several lines up to its closing quotation marks, of which up to two more
belong to the string. White space behind a hidden line break is left out. -/
def longBasic : Bool → List Char → Option (List Char × List Char)
  | skip, ' ' :: rest => if skip then longBasic true rest else before ' ' (longBasic false rest)
  | skip, '\t' :: rest =>
    if skip then longBasic true rest else before '\t' (longBasic false rest)
  | skip, '\n' :: rest =>
    if skip then longBasic true rest else before '\n' (longBasic false rest)
  | skip, '\r' :: '\n' :: rest =>
    if skip then longBasic true rest else before '\n' (longBasic false rest)
  | _, '"' :: '"' :: '"' :: '"' :: '"' :: rest => some (['"', '"'], rest)
  | _, '"' :: '"' :: '"' :: '"' :: rest => some (['"'], rest)
  | _, '"' :: '"' :: '"' :: rest => some ([], rest)
  | _, '\\' :: 'u' :: a :: b :: c :: d :: rest =>
    (charOfHex? [a, b, c, d]).bind fun x => before x (longBasic false rest)
  | _, '\\' :: 'U' :: a :: b :: c :: d :: e :: f :: g :: h :: rest =>
    (charOfHex? [a, b, c, d, e, f, g, h]).bind fun x => before x (longBasic false rest)
  | _, '\\' :: c :: rest =>
    if hidesBreak (c :: rest) then longBasic true (c :: rest)
    else (escape? c).bind fun x => before x (longBasic false rest)
  | _, c :: rest => if isPlain c then before c (longBasic false rest) else none
  | _, [] => none

def literal : List Char → Option (List Char × List Char)
  | '\'' :: rest => some ([], rest)
  | c :: rest => if isPlain c then before c (literal rest) else none
  | [] => none

def longLiteral : List Char → Option (List Char × List Char)
  | '\'' :: '\'' :: '\'' :: '\'' :: '\'' :: rest => some (['\'', '\''], rest)
  | '\'' :: '\'' :: '\'' :: '\'' :: rest => some (['\''], rest)
  | '\'' :: '\'' :: '\'' :: rest => some ([], rest)
  | '\n' :: rest => before '\n' (longLiteral rest)
  | '\r' :: '\n' :: rest => before '\n' (longLiteral rest)
  | c :: rest => if isPlain c then before c (longLiteral rest) else none
  | [] => none

def dropFirstBreak (cs : List Char) : List Char := (lineBreak? cs).getD cs

def simpleKey (cs : List Char) : Option (List Char × List Char) :=
  match cs with
  | '"' :: rest => basic rest
  | '\'' :: rest => literal rest
  | cs =>
    let name := cs.takeWhile isBare
    if name = [] then none else some (name, cs.drop name.length)

def key : Nat → List Char → Option (Key × List Char)
  | 0, _ => none
  | n + 1, cs => do
    let (k, rest) ← simpleKey (skipBlanks cs)
    match skipBlanks rest with
    | '.' :: rest => (key n rest).map fun (ks, rest) => (k :: ks, rest)
    | rest => some ([k], rest)

mutual

def value : Nat → List Char → Option (Value × List Char)
  | 0, _ => none
  | n + 1, cs =>
    match cs with
    | '"' :: '"' :: '"' :: rest =>
      (longBasic false (dropFirstBreak rest)).map fun (s, rest) => (.text s, rest)
    | '"' :: rest => (basic rest).map fun (s, rest) => (.text s, rest)
    | '\'' :: '\'' :: '\'' :: rest =>
      (longLiteral (dropFirstBreak rest)).map fun (s, rest) => (.text s, rest)
    | '\'' :: rest => (literal rest).map fun (s, rest) => (.text s, rest)
    | '[' :: rest => (members n rest).map fun (vs, rest) => (.list vs, rest)
    | '\x7b' :: rest =>
      match skipBlanks rest with
      | '\x7d' :: rest => some (.table [], rest)
      | rest => (entries n [] rest).map fun (es, rest) => (.table es, rest)
    | _ => none

/-- Reads the members of a list up to its closing bracket; a comma may stand behind the last. -/
def members : Nat → List Char → Option (List Value × List Char)
  | 0, _ => none
  | n + 1, cs =>
    match skipGaps cs.length cs with
    | ']' :: rest => some ([], rest)
    | cs => do
      let (v, rest) ← value n cs
      match skipGaps rest.length rest with
      | ',' :: rest => (members n rest).map fun (vs, rest) => (v :: vs, rest)
      | ']' :: rest => some ([v], rest)
      | _ => none

def entries : Nat → List (List Char) → List Char → Option (List (List Char × Value) × List Char)
  | 0, _, _ => none
  | n + 1, seen, cs =>
    match key cs.length cs with
    | some ([k], '=' :: rest) => do
      if seen.contains k then none
      else
        let (v, rest) ← value n (skipBlanks rest)
        match skipBlanks rest with
        | ',' :: rest => (entries n (k :: seen) rest).map fun (es, rest) => ((k, v) :: es, rest)
        | '\x7d' :: rest => some ([(k, v)], rest)
        | _ => none
    | _ => none

end

def statement (cs : List Char) : Option (Statement × List Char) :=
  match cs with
  | '[' :: rest =>
    match key rest.length rest with
    | some (k, ']' :: rest) => some (.header k, rest)
    | _ => none
  | cs =>
    match key cs.length cs with
    | some (k, '=' :: rest) =>
      (value rest.length (skipBlanks rest)).map fun (v, rest) => (.pair k v, rest)
    | _ => none

def statements : Nat → List Char → Option (List Statement)
  | 0, _ => some []
  | n + 1, cs =>
    match skipGaps cs.length cs with
    | [] => some []
    | cs => do
      let (s, rest) ← statement cs
      match skipComment (skipBlanks rest) with
      | [] => some [s]
      | rest => (s :: ·) <$> statements n (← lineBreak? rest)

def read (text : List Char) : Option (List Statement) :=
  let text := match text with
    | '\uFEFF' :: rest => rest
    | text => text
  statements (text.length + 1) text

end Glean.Toml
