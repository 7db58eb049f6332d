import Glean.Lines
import Glean.Script.Token

set_option autoImplicit false

/-!
# Literals of scripts

A literal is a text in quotes of one kind, or, where there are types, the word for the type of
strings. A measure finds how long a literal is and is known to find nothing else, so what is passed
over as a literal is one.
-/
namespace Glean.Script

inductive Dialect
  | plain
  | typed
  | typedElements
  deriving DecidableEq, Repr, Inhabited

def Dialect.hasTypes : Dialect → Bool
  | plain => false
  | _ => true

def Dialect.hasElements : Dialect → Bool
  | typed => false
  | _ => true

structure Literal where
  start : Nat
  text : List Char
  deriving DecidableEq, Repr

def Literal.place (t : Literal) (code : List Char) : Lines.Place := Lines.placeAt code t.start

def isQuote (c : Char) : Bool := c = '\'' || c = '"'

def isQuoted : List Char → Bool
  | q :: rest => isQuote q && rest.getLast? = some q
  | [] => false

def stringType : List Char := "string".toList

def Dialect.isLiteral (d : Dialect) (text : List Char) : Bool :=
  isQuoted text || (d.hasTypes && text = stringType)

/-- Finds the length of the literal that a text begins with, zero where there is none. -/
structure Measure where
  length : Dialect → List Char → Nat
  isLiteral : ∀ d text, 0 < length d text → d.isLiteral (text.take (length d text)) = true

/-- A text that ends, behind `n` characters, in a quote. -/
def EndsIn (q : Char) (text : List Char) (n : Nat) : Prop := 0 < n ∧ text[n - 1]? = some q

theorem endsIn_one (q : Char) (text : List Char) : EndsIn q (q :: text) 1 := ⟨Nat.one_pos, rfl⟩

theorem EndsIn.add {q : Char} {text : List Char} {n m : Nat} (h : EndsIn q (text.drop n) m) :
    EndsIn q text (m + n) := by
  obtain ⟨hpos, hm⟩ := h
  rw [List.getElem?_drop, show n + (m - 1) = m + n - 1 by omega] at hm
  exact ⟨by omega, hm⟩

theorem EndsIn.of_map {q : Char} {text : List Char} {n m : Nat} {found : Option Nat}
    (ih : ∀ k, found = some k → EndsIn q (text.drop n) k) (h : found.map (· + n) = some m) :
    EndsIn q text m := by
  obtain ⟨k, hk, rfl⟩ := Option.map_eq_some_iff.mp h
  exact (ih k hk).add

theorem EndsIn.isQuoted_take {q : Char} {text : List Char} {n : Nat} (h : EndsIn q text n)
    (hq : isQuote q = true) : isQuoted ((q :: text).take (n + 1)) = true := by
  obtain ⟨hpos, hn⟩ := h
  rw [List.take_succ_cons, isQuoted, hq, List.getLast?_take, if_neg (by omega), hn]
  simp

theorem isQuoted_found {q : Char} {text : List Char} {found : Option Nat} (hq : isQuote q = true)
    (hfound : ∀ n, found = some n → EndsIn q text n)
    (h : 0 < match found with | some n => n + 1 | none => 0) :
    isQuoted ((q :: text).take (match found with | some n => n + 1 | none => 0)) = true := by
  cases found with
  | none => contradiction
  | some n => exact (hfound n rfl).isQuoted_take hq

theorem endsIn_bodyLength (q : Char) (fuel : Nat) (text : List Char) (n : Nat)
    (h : bodyLength q fuel text = some n) : EndsIn q text n := by
  induction fuel generalizing text n with
  | zero => simp [bodyLength] at h
  | succ fuel ih =>
    cases text with
    | nil => simp [bodyLength] at h
    | cons c text =>
      simp only [bodyLength] at h
      split at h
      · rename_i hc
        obtain rfl := Option.some.inj h
        exact hc ▸ endsIn_one c text
      split at h
      · contradiction
      split at h
      · split at h
        · contradiction
        · exact .of_map (ih _) h
      split at h
      · split at h
        · split at h
          · rename_i hq
            rw [Option.some.injEq, Nat.add_comm] at h
            subst n
            refine EndsIn.add ⟨Nat.one_pos, ?_⟩
            rw [← hq, List.head?_eq_getElem?]
          · contradiction
        · exact .of_map (ih _) h
      · exact .of_map (ih _) h

theorem isQuoted_stringLength (text : List Char) (h : 0 < stringLength text) :
    isQuoted (text.take (stringLength text)) = true := by
  cases text with
  | nil => contradiction
  | cons q text =>
    simp only [stringLength] at h ⊢
    split at h
    · rename_i hq
      rw [if_pos hq]
      exact isQuoted_found (by simpa [isQuote] using hq) (endsIn_bodyLength q _ text) h
    · contradiction

namespace Measure

def ofQuoted (length : List Char → Nat)
    (h : ∀ text, 0 < length text → isQuoted (text.take (length text)) = true) : Measure where
  length _ := length
  isLiteral d text hpos := by rw [Dialect.isLiteral, h text hpos, Bool.true_or]

def string : Measure := ofQuoted stringLength isQuoted_stringLength

def stringWord : Measure where
  length d text :=
    let n := wordLength text
    if d.hasTypes && text.take n = stringType then n else 0
  isLiteral d text h := by
    dsimp only at h ⊢
    split at h
    · rename_i hword
      rw [if_pos hword, Dialect.isLiteral, hword, Bool.or_true]
    · contradiction

end Measure

end Glean.Script
