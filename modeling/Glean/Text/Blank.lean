set_option autoImplicit false

/-!
# White space

`isBlank` is the Unicode property `White_Space`. Texts are trimmed by it at both ends; the trimmed
text is a contiguous part of the text it came from.
-/
namespace Glean.Text

def isBlank (c : Char) : Bool :=
  let n := c.toNat
  (0x09 ≤ n && n ≤ 0x0D) || n == 0x20 || n == 0x85 || n == 0xA0 || n == 0x1680 ||
    (0x2000 ≤ n && n ≤ 0x200A) || n == 0x2028 || n == 0x2029 || n == 0x202F || n == 0x205F ||
    n == 0x3000

def trimStart (text : List Char) : List Char := text.dropWhile isBlank

def trimEnd (text : List Char) : List Char := (text.reverse.dropWhile isBlank).reverse

def trim (text : List Char) : List Char := trimEnd (trimStart text)

def AllBlank (text : List Char) : Prop := ∀ c ∈ text, isBlank c = true

theorem dropWhile_isBlank_eq_nil_iff (text : List Char) :
    text.dropWhile isBlank = [] ↔ AllBlank text := by
  induction text with
  | nil => simp [AllBlank]
  | cons c text ih =>
    by_cases h : isBlank c = true
    · simp_all [AllBlank]
    · simp_all [AllBlank]

theorem trimStart_eq_nil_iff (text : List Char) : trimStart text = [] ↔ AllBlank text :=
  dropWhile_isBlank_eq_nil_iff text

theorem trimEnd_eq_nil_iff (text : List Char) : trimEnd text = [] ↔ AllBlank text := by
  rw [trimEnd, List.reverse_eq_nil_iff, dropWhile_isBlank_eq_nil_iff]
  simp only [AllBlank, List.mem_reverse]

theorem takeWhile_append_trimStart (text : List Char) :
    text.takeWhile isBlank ++ trimStart text = text :=
  List.takeWhile_append_dropWhile

end Glean.Text
