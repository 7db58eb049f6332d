import Glean.Pattern.Reader
import Glean.Proofs.ReadBack

set_option autoImplicit false

/-!
# How far a class reaches

Whatever is read of a pattern leaves the end of it. A class ends with a closing bracket, so one
without a closing bracket inside it reaches up to the end of its pattern.
-/
namespace Glean.Pattern

/-- What is read of a text leaves the end of the text. -/
def Leaves {α : Type} (cs : List Char) (found : Except Fault (α × List Char)) : Prop :=
  ∀ a rest, found = .ok (a, rest) → rest <:+ cs

namespace Leaves

variable {α β : Type} {cs ds : List Char}

theorem error (e : Fault) : Leaves (α := α) cs (.error e) := by
  intro a rest h
  contradiction

theorem ok (a : α) {rest : List Char} (h : rest <:+ cs) : Leaves cs (.ok (a, rest)) := by
  intro b other heq
  simp only [Except.ok.injEq, Prod.mk.injEq] at heq
  exact heq.2 ▸ h

theorem mono {found : Except Fault (α × List Char)} (h : Leaves ds found) (hs : ds <:+ cs) :
    Leaves cs found :=
  fun a rest heq => (h a rest heq).trans hs

theorem map {found : Except Fault (α × List Char)} (h : Leaves cs found) (f : α → β) :
    Leaves cs (found.map fun p => (f p.1, p.2)) := by
  cases found with
  | error e => exact error e
  | ok p => exact ok (f p.1) (h p.1 p.2 rfl)

theorem bind {found : Except Fault (α × List Char)}
    {next : α × List Char → Except Fault (β × List Char)} (h : Leaves cs found)
    (hnext : ∀ a rest, rest <:+ cs → Leaves cs (next (a, rest))) : Leaves cs (found >>= next) := by
  cases found with
  | error e => exact error e
  | ok p => exact hnext p.1 p.2 (h p.1 p.2 rfl)

theorem of_pure {found : Except Fault α} {next : α → Except Fault (β × List Char)}
    (hnext : ∀ a, Leaves cs (next a)) : Leaves cs (found >>= next) := by
  cases found with
  | error e => exact error e
  | ok a => exact hnext a

theorem of_map {found : Except Fault α} {rest : List Char} (h : rest <:+ cs) (g : α → β) :
    Leaves cs (found.map fun a => (g a, rest)) := by
  cases found with
  | error e => exact error e
  | ok a => exact ok (g a) h

end Leaves

theorem dropSpaces_suffix (inComment : Bool) (cs : List Char) : dropSpaces inComment cs <:+ cs := by
  fun_induction dropSpaces inComment cs with
  | case1 c cs ih => exact ih.trans (List.suffix_cons c cs)
  | case2 c cs _ ih => exact ih.trans (List.suffix_cons c cs)
  | case3 cs _ ih => exact ih.trans (List.suffix_cons _ cs)
  | case4 c cs => exact List.suffix_rfl
  | case5 => exact List.suffix_rfl

namespace Flags

variable (f : Flags)

theorem skip_suffix (cs : List Char) : f.skip cs <:+ cs := by
  unfold skip
  split
  · exact dropSpaces_suffix false cs
  · exact List.suffix_rfl

theorem skip_default (cs : List Char) : ({} : Flags).skip cs = cs := rfl

theorem skip_suffix_cons (c : Char) (cs : List Char) : f.skip cs <:+ c :: cs :=
  (f.skip_suffix cs).trans (List.suffix_cons c cs)

theorem behind_suffix (cs : List Char) : f.behind cs <:+ cs :=
  (f.skip_suffix cs.tail).trans (List.tail_suffix cs)

end Flags

variable (f : Flags)

theorem suffix_of_upToBrace (inComment : Bool) (cs inside rest : List Char)
    (h : upToBrace f inComment cs = some (inside, rest)) : rest <:+ cs := by
  induction cs generalizing inComment inside with
  | nil => simp [upToBrace] at h
  | cons c cs ih =>
    have later {inComment : Bool} {inside : List Char}
        (h : upToBrace f inComment cs = some (inside, rest)) : rest <:+ c :: cs :=
      (ih inComment inside h).trans (List.suffix_cons c cs)
    simp only [upToBrace] at h
    split at h
    · exact later h
    split at h
    · exact later h
    split at h
    · exact later h
    split at h
    · simp only [Option.some.injEq, Prod.mk.injEq] at h
      exact h.2 ▸ List.suffix_cons c cs
    · obtain ⟨p, hp, heq⟩ := Option.map_eq_some_iff.mp h
      obtain rfl : p.2 = rest := (Prod.mk.inj heq).2
      exact later hp

theorem leaves_charOfHex (byte : Bool) (digits rest cs : List Char) (h : rest <:+ cs) :
    Leaves cs (charOfHex byte digits rest) := by
  unfold charOfHex
  split
  · exact .ok _ h
  · exact .error _

theorem leaves_hexDigits (n : Nat) (cs : List Char) : Leaves cs (hexDigits f n cs) := by
  induction n generalizing cs with
  | zero => exact .ok _ List.suffix_rfl
  | succ n ih =>
    cases cs with
    | nil => exact .error _
    | cons c cs =>
      simp only [hexDigits]
      split
      · exact ((ih (f.skip cs)).mono (f.skip_suffix_cons c cs)).map (fun ds => c :: ds)
      · exact .error _

theorem leaves_hexEscape (width : Nat) (cs : List Char) : Leaves cs (hexEscape f width cs) := by
  have hskip := f.skip_suffix cs
  unfold hexEscape
  split
  · exact .error _
  · rename_i inside heq
    have hinside : inside <:+ cs := by
      rw [heq] at hskip
      exact (List.suffix_cons _ inside).trans hskip
    split
    · split
      · exact .error _
      · exact .error _
    · rename_i digits rest hbrace
      split
      · exact .error _
      · refine leaves_charOfHex false digits _ cs ?_
        exact ((f.skip_suffix rest).trans (suffix_of_upToBrace f _ _ _ _ hbrace)).trans hinside
  · split
    · exact .error _
    · rename_i digits rest hdigits
      exact leaves_charOfHex _ digits rest cs
        ((leaves_hexDigits f width _ digits rest hdigits).trans hskip)

theorem leaves_unicodeSet (negated : Bool) (cs : List Char) :
    Leaves cs (unicodeSet f negated cs) := by
  have hskip := f.skip_suffix cs
  unfold unicodeSet
  dsimp only
  split
  · exact .error _
  · rename_i inside heq
    rw [heq] at hskip
    split
    · exact .error _
    · rename_i name rest hbrace
      have hrest : rest <:+ cs := ((suffix_of_upToBrace f _ _ _ _ hbrace).trans
        (List.suffix_cons _ inside)).trans hskip
      split
      · exact .error _
      · split
        · exact .ok _ hrest
        · exact .error _
  · exact .error _
  · rename_i c rest _ _ heq
    rw [heq] at hskip
    split
    · exact .error _
    · split
      · exact .ok _ ((f.skip_suffix_cons c rest).trans hskip)
      · exact .error _

theorem leaves_namedBoundary (cs : List Char) : Leaves cs (namedBoundary f cs) := by
  unfold namedBoundary
  dsimp only
  split
  · rename_i inside
    have hskip := f.skip_suffix_cons '\x7b' inside
    split
    · exact .error _
    · rename_i c rest heq
      rw [heq] at hskip
      split
      · split
        · exact .error _
        · rename_i name behind hbrace
          have hbehind := (suffix_of_upToBrace f _ _ _ _ hbrace).trans hskip
          split
          all_goals first | exact .ok _ hbehind | exact .error _
      · exact .ok _ List.suffix_rfl
  · exact .ok _ List.suffix_rfl

theorem leaves_readEscape (cs : List Char) : Leaves cs (readEscape f cs) := by
  cases cs with
  | nil => exact .error _
  | cons c rest =>
    have hrest := List.suffix_cons c rest
    simp only [readEscape]
    split
    case h_1 | h_2 | h_3 => exact (leaves_hexEscape f _ rest).mono hrest
    case h_4 | h_5 => exact (leaves_unicodeSet f _ rest).mono hrest
    case h_6 | h_7 | h_8 | h_9 | h_10 | h_11 => exact .of_map hrest _
    case h_23 =>
      exact ((leaves_namedBoundary f rest).mono hrest).map
        fun l => Atom.look (l.getD (.boundary !f.unicode))
    case h_24 =>
      split
      · exact .error _
      split
      · exact .ok _ hrest
      · exact .error _
    all_goals exact .ok _ hrest

theorem leaves_classAtom (cs : List Char) : Leaves cs (classAtom f cs) := by
  unfold classAtom
  split
  · exact .error _
  · rename_i rest
    exact (leaves_readEscape f rest).mono (List.suffix_cons _ rest)
  · rename_i c rest _
    exact .ok _ (List.suffix_cons c rest)

theorem leaves_leadingHyphens (n : Nat) (k : OpenClass) (cs : List Char) :
    Leaves cs (leadingHyphens f n k cs) := by
  induction n generalizing k cs with
  | zero => exact .error _
  | succ n ih =>
    cases cs with
    | nil => exact .error _
    | cons c cs =>
      simp only [leadingHyphens]
      split
      · exact (ih _ _).mono (f.skip_suffix_cons c cs)
      · exact .ok _ List.suffix_rfl

theorem leaves_openClass (cs : List Char) : Leaves cs (openClass f cs) := by
  have hbehind := f.behind_suffix cs
  unfold openClass
  dsimp only
  refine .bind ((leaves_leadingHyphens f _ _ _).mono ?_) ?_
  · split
    · rename_i rest heq
      rw [heq] at hbehind
      exact (f.skip_suffix_cons _ rest).trans hbehind
    · exact hbehind
  intro k rest hrest
  dsimp only
  split
  · rename_i inside _
    have hskip := (f.skip_suffix_cons ']' inside).trans hrest
    split
    · exact .error _
    · exact .ok _ hskip
  · exact .ok _ hrest

theorem suffix_of_posixClass? (cs : List Char) (s : CharSet) (negated : Bool) (rest : List Char)
    (h : posixClass? cs = some (s, negated, rest)) : rest <:+ cs := by
  unfold posixClass? at h
  split at h
  · rename_i inside
    dsimp only at h
    split at h
    · rename_i behind hdrop
      obtain ⟨named, -, heq⟩ := Option.map_eq_some_iff.mp h
      simp only [Prod.mk.injEq] at heq
      rw [← heq.2.2]
      have hclose : behind <:+ ':' :: ']' :: behind := ⟨[':', ']'], rfl⟩
      rw [← hdrop] at hclose
      refine (hclose.trans (List.drop_suffix _ _)).trans ?_
      split
      · exact ⟨['[', ':', '^'], rfl⟩
      · exact ⟨['[', ':'], rfl⟩
    · contradiction
  · contradiction

theorem leaves_classMember (cs : List Char) : Leaves cs (classMember f cs) := by
  unfold classMember
  refine .bind (leaves_classAtom f cs) ?_
  intro first rest hrest
  have hskip := f.skip_suffix rest
  dsimp only
  split
  · exact .error _
  · rename_i c rest heq
    rw [heq] at hskip
    have hbehind := hskip.trans hrest
    split
    · exact .of_pure fun s => .ok s hbehind
    · refine .bind ((leaves_classAtom f _).mono ?_) ?_
      · exact (f.skip_suffix_cons c rest).trans hbehind
      · intro last rest hrest
        refine .of_pure fun lo => .of_pure fun hi => ?_
        split
        · exact .ok _ hrest
        · exact .error _

/-- A class ends with a closing bracket. -/
theorem suffix_of_readClassFrom (n : Nat) (k : OpenClass) (outer : List OpenClass)
    (cs : List Char) (s : Nested CharSet) (rest : List Char)
    (h : readClassFrom f n k outer cs = .ok (s, rest)) : ']' :: rest <:+ cs := by
  induction n generalizing k outer cs with
  | zero => contradiction
  | succ n ih =>
    have hskip := f.skip_suffix cs
    have later {k : OpenClass} {outer : List OpenClass} {ds : List Char}
        (hds : ds <:+ f.skip cs) (h : readClassFrom f n k outer ds = .ok (s, rest)) :
        ']' :: rest <:+ cs :=
      ((ih k outer ds h).trans hds).trans hskip
    unfold readClassFrom at h
    split at h
    · contradiction
    · rename_i inside heq
      split at h
      · rename_i found hposix
        split at h
        · contradiction
        · exact later (heq ▸ suffix_of_posixClass? _ _ _ _ hposix) h
      · obtain ⟨⟨inner, behind⟩, hopen, h⟩ := (bind_eq_ok_iff _ _ _).mp h
        exact later (heq ▸ leaves_openClass f _ inner behind hopen) h
    · rename_i inside heq
      obtain ⟨closed, -, h⟩ := (bind_eq_ok_iff _ _ _).mp h
      split at h
      · obtain rfl : inside = rest := (Prod.mk.inj (Except.ok.inj h)).2
        exact heq ▸ hskip
      · exact later (heq ▸ List.suffix_cons _ inside) h
    iterate 3
      · rename_i inside heq
        exact later (heq ▸ ⟨[_, _], rfl⟩) h
    · obtain ⟨⟨member, behind⟩, hmember, h⟩ := (bind_eq_ok_iff _ _ _).mp h
      exact later (leaves_classMember f _ member behind hmember) h

theorem suffix_of_readClass (cs : List Char) (s : Nested CharSet) (rest : List Char)
    (h : readClass f cs = .ok (s, rest)) : ']' :: rest <:+ cs := by
  obtain ⟨⟨k, inside⟩, hopen, h⟩ := (bind_eq_ok_iff _ _ _).mp h
  exact (suffix_of_readClassFrom f _ k [] inside s rest h).trans
    (leaves_openClass f cs k inside hopen)

end Glean.Pattern
