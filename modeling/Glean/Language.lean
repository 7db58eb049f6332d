import Glean.Failure
import Glean.Text.Blank

set_option autoImplicit false

/-!
# Languages

The languages that can be read, how a file's extension or a script element's `lang` attribute
chooses one, and the family that decides how it is read.
-/
namespace Glean

inductive Language
  | javascript
  | jsx
  | typescript
  | tsx
  | json
  | html
  | vue
  deriving DecidableEq, Repr

/-- How a language is read: as a script, as markup that may hold scripts, or as data, which is a
script expression. -/
inductive Family
  | script
  | markup
  | data
  deriving DecidableEq, Repr

namespace Language

def name : Language → String
  | javascript => "javascript"
  | jsx => "jsx"
  | typescript => "typescript"
  | tsx => "tsx"
  | json => "json"
  | html => "html"
  | vue => "vue"

def ofName? : String → Option Language
  | "javascript" => some javascript
  | "jsx" => some jsx
  | "typescript" => some typescript
  | "tsx" => some tsx
  | "json" => some json
  | "html" => some html
  | "vue" => some vue
  | _ => none

theorem ofName?_name (l : Language) : ofName? l.name = some l := by
  cases l <;> rfl

def family : Language → Family
  | javascript | jsx | typescript | tsx => .script
  | json => .data
  | html | vue => .markup

/-- Small letters for capitals. No capital outside ASCII has a small letter that occurs in an
extension or a language name, so those of ASCII are enough to compare. -/
def fold (s : String) : String := String.ofList (s.toList.map Char.toLower)

def ofExtension? (extension : String) : Option Language :=
  match fold extension with
  | "js" | "mjs" | "cjs" => some javascript
  | "jsx" => some jsx
  | "ts" | "mts" | "cts" => some typescript
  | "tsx" => some tsx
  | "json" => some json
  | "html" | "htm" => some html
  | "vue" => some vue
  | _ => none

def ofExtension (extension : String) : Except Failure Language :=
  match ofExtension? extension with
  | some language => .ok language
  | none => .error (.noLanguage s!"unsupported extension: {extension}")

def ofAttribute (value : Option String) : Language :=
  match value.map fun v => fold (String.ofList (Text.trim v.toList)) with
  | some "ts" | some "typescript" => typescript
  | some "tsx" => tsx
  | some "jsx" => jsx
  | _ => javascript

end Language

end Glean
