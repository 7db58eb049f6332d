import Glean.Pattern.Named
import Glean.Pattern.Unicode.Age

set_option autoImplicit false

/-!
# Sets of characters by a property and its value

Categories and scripts, the versions of Unicode, and the classes that decide where a text may be cut
into signs, words and sentences. What belongs to such a class follows from other properties, but for
a few characters that are listed here.
-/
namespace Glean.Unicode

def named (name : String) : CharSet := (set? name.toList).getD .none

def anyOf (sets : List CharSet) : CharSet := sets.foldr .union .none

/-- The characters of a version, which are those that it or an earlier one brought in. -/
def age? (version : List Char) : Option CharSet :=
  let isVersion (e : List String × String) : Bool :=
    e.1.any fun n => normalize n.toList = normalize version
  (ages.findIdx? isVersion).map fun i => anyOf ((ages.take (i + 1)).map fun e => .ofText e.2)

def zeroWidthJoiner : CharSet := .one '\u200d'

def lineSeparators : CharSet := .ofText "85 2028 2029"

def extending : CharSet := .union (named "Grapheme_Extend") (named "Emoji_Modifier")

def joined : CharSet := .union extending (named "Mc")

def numeric : CharSet :=
  anyOf [named "Nd", .ofText "66B-66C",
    .diff (named "Prepended_Concatenation_Mark") (.one '\u070f')]

/-- The syllables of Hangul that end in a vowel. -/
def openSyllables : CharSet := .ranges ((List.range 399).map fun i =>
  let code := 0xAC00 + 28 * i
  (code, code))

def signClass? (value : List Char) : Option CharSet :=
  let prepended : CharSet :=
    .union (named "Prepended_Concatenation_Mark")
      (.ofText "D4E 111C2-111C3 113D1 1193F 11941 11A3A 11A84-11A89 11D46 11F02")
  match String.ofList (normalize value) with
  | "cr" => some (.one '\r')
  | "lf" => some (.one '\n')
  | "cn" | "control" =>
    let controls := anyOf [named "Cc", named "Cf", named "Zl", named "Zp",
      .inter (named "Cn") (named "Default_Ignorable_Code_Point")]
    some (.diff controls (anyOf [.ofText "A D 200C-200D", prepended, extending]))
  | "ex" | "extend" => some (.diff extending zeroWidthJoiner)
  | "zwj" => some zeroWidthJoiner
  | "ri" | "regionalindicator" => some (named "Regional_Indicator")
  | "pp" | "prepend" => some prepended
  | "sm" | "spacingmark" =>
    some (.diff (.union (named "Mc") (.ofText "E33 EB3"))
      (.union extending (.ofText "102B-102C 1038 1062-1064 1067-106D 1083 1087-108C 108F
        109A-109C 1A61 1A63-1A64 AA7B AA7D 11720-11721")))
  | "l" => some (.ofText "1100-115F A960-A97C")
  | "v" => some (.ofText "1160-11A7 D7B0-D7C6 16D63 16D67-16D6A")
  | "t" => some (.ofText "11A8-11FF D7CB-D7FB")
  | "lv" => some openSyllables
  | "lvt" => some (.diff (.ofText "AC00-D7A3") openSyllables)
  | _ => none

def wordClass? (value : List Char) : Option CharSet :=
  let extend : CharSet := .diff joined zeroWidthJoiner
  let katakana : CharSet :=
    .diff (.union (named "Katakana") (.ofText "3031-3035 309B-309C 30A0 30FC FF70")) extend
  let hebrew : CharSet := .inter (named "Hebrew") (named "Lo")
  match String.ofList (normalize value) with
  | "cr" => some (.one '\r')
  | "lf" => some (.one '\n')
  | "nl" | "newline" => some (.union lineSeparators (.ofText "B C"))
  | "extend" => some extend
  | "zwj" => some zeroWidthJoiner
  | "ri" | "regionalindicator" => some (named "Regional_Indicator")
  | "fo" | "format" =>
    some (.diff (named "Cf")
      (anyOf [.ofText "200B-200D", extend, named "Prepended_Concatenation_Mark"]))
  | "ka" | "katakana" => some katakana
  | "hl" | "hebrewletter" => some hebrew
  | "le" | "aletter" =>
    -- Scripts that are written without blanks between words have no letters of this class.
    let apart := ["Thai", "Lao", "Myanmar", "Khmer", "Tai_Le", "New_Tai_Lue", "Tai_Tham",
      "Tai_Viet", "Ahom", "Hiragana"]
    some (.diff
      (.union (named "Alphabetic") (.ofText "B8 2C2-2C5 2D2-2D7 2DE-2DF 2E5-2EB 2ED 2EF-2FF
        55A-55C 55E 58A 5F3 70F A708-A716 A720-A721 A789-A78A AB5B"))
      (anyOf (extend :: katakana :: hebrew :: named "Ideographic" :: apart.map named)))
  | "sq" | "singlequote" => some (.one '\'')
  | "dq" | "doublequote" => some (.one '"')
  | "mb" | "midnumlet" => some (.ofText "2E 2018-2019 2024 FE52 FF07 FF0E")
  | "ml" | "midletter" => some (.ofText "3A B7 387 55F 5F4 2027 FE13 FE55 FF1A")
  | "mn" | "midnum" =>
    some (.ofText "2C 3B 37E 589 60C-60D 66C 7F8 2044 FE10 FE14 FE50 FE54 FF0C FF1B")
  | "nu" | "numeric" => some (.diff numeric (.one '\u066c'))
  | "ex" | "extendnumlet" => some (.union (named "Pc") (.one '\u202f'))
  | "wsegspace" => some (.diff (named "Zs") (.ofText "A0 2007 202F"))
  | _ => none

def sentenceClass? (value : List Char) : Option CharSet :=
  let extend : CharSet := anyOf [named "Grapheme_Extend", named "Mc", zeroWidthJoiner]
  -- Georgian letters come in two cases, but a capital does not begin a sentence.
  let lower : CharSet :=
    .diff (named "Lowercase") (.union (named "Grapheme_Extend") (.ofText "10D0-10FA 10FD-10FF"))
  let upper : CharSet :=
    .diff (.union (named "Uppercase") (named "Lt")) (.ofText "1C90-1CBA 1CBD-1CBF")
  let stops : CharSet := .ofText "2E 2024 FE52 FF0E"
  let ends : CharSet := .diff (named "Sentence_Terminal") stops
  match String.ofList (normalize value) with
  | "cr" => some (.one '\r')
  | "lf" => some (.one '\n')
  | "ex" | "extend" => some extend
  | "se" | "sep" => some lineSeparators
  | "fo" | "format" => some (.diff (named "Cf") (anyOf [.ofText "200C-200D", extend, numeric]))
  | "sp" => some (.diff (named "White_Space") (.union lineSeparators (.ofText "A D")))
  | "lo" | "lower" => some lower
  | "up" | "upper" => some upper
  | "le" | "oletter" =>
    some (.diff (.union (named "Alphabetic") (.one '\u05f3')) (anyOf [lower, upper, extend]))
  | "nu" | "numeric" => some numeric
  | "at" | "aterm" => some stops
  | "sc" | "scontinue" =>
    some (.ofText "2C-2D 3A-3B 37E 55D 60C-60D 7F8 1802 1808 2013-2014 3001 FE10-FE11 FE13-FE14
      FE31-FE32 FE50-FE51 FE54-FE55 FE58 FE63 FF0C-FF0D FF1A-FF1B FF64")
  | "st" | "sterm" => some ends
  | "cl" | "close" =>
    some (.diff
      (anyOf [named "Ps", named "Pe", named "Pi", named "Pf",
        .ofText "22 27 275B-2760 2E00-2E01 2E06-2E08 2E0B 1F676-1F678"])
      (anyOf [.one '\u05f3', stops, ends]))
  | _ => none

def setOf? (kind value : List Char) : Option CharSet :=
  match String.ofList (normalize kind) with
  | "gc" | "generalcategory" => category? value
  | "sc" | "script" => script? value
  | "scx" | "scriptextensions" => scriptExtension? value
  | "age" => age? value
  | "gcb" | "graphemeclusterbreak" => signClass? value
  | "wb" | "wordbreak" => wordClass? value
  | "sb" | "sentencebreak" => sentenceClass? value
  | _ => none

end Glean.Unicode
