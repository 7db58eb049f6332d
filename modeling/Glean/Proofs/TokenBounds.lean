import Glean.Markup.TagScan

set_option autoImplicit false

/-!
# Where tokens lie

Looking for a token never goes back: a token begins where it is looked for or behind, and ends where
it begins or behind.
-/
namespace Glean.Markup

namespace Page

variable (s : Page)

theorem le_spanWithin (p : Char → Bool) (n i : Nat) : i ≤ s.spanWithin p n i := by
  induction n generalizing i with
  | zero => exact Nat.le_refl i
  | succ n ih =>
    rw [spanWithin]
    split
    · have := ih (i + 1)
      omega
    · exact Nat.le_refl i

theorem le_spanEnd (p : Char → Bool) (i : Nat) : i ≤ s.spanEnd p i := s.le_spanWithin p _ i

theorem le_spanUpTo (p : Char → Bool) (i n : Nat) : i ≤ s.spanUpTo p i n := by
  have := s.le_spanEnd p i
  unfold spanUpTo
  omega

theorem le_begin (i : Nat) : i ≤ s.begin i := by
  unfold begin
  split <;> omega

theorem le_nameAt (i : Nat) : i ≤ (s.nameAt i).2 := s.le_spanEnd _ i

end Page

/-- What was found from a place on lies behind it, and the token begins before it ends. -/
structure Found.Behind (i : Nat) (f : Found) : Prop where
  start : i ≤ f.start
  reach : f.start ≤ f.reach
  token : ∀ sym stop, f.token = some (sym, stop) → f.start ≤ stop

namespace Found

theorem behind_some (i reach stop : Nat) (sym : Sym) (hr : i ≤ reach) (hs : i ≤ stop) :
    Behind i ⟨some (sym, stop), i, reach⟩ := by
  refine ⟨Nat.le_refl i, hr, ?_⟩
  rintro _ _ ⟨⟩
  exact hs

theorem behind_none (i reach : Nat) (hr : i ≤ reach) : Behind i ⟨none, i, reach⟩ := by
  refine ⟨Nat.le_refl i, hr, ?_⟩
  intro sym stop h
  contradiction

theorem behind_one (i : Nat) (sym : Sym) : Behind i (.one i sym) :=
  behind_some i _ _ sym (Nat.le_succ i) (Nat.le_succ i)

theorem behind_run (i stop : Nat) (sym : Sym) (h : i ≤ stop) : Behind i (.run i stop sym) := by
  unfold run
  split
  · exact behind_some i stop stop sym h h
  · exact behind_none i stop h

end Found

open Found

theorem behind_entityAt (s : Page) (i : Nat) : Behind i (entityAt s i) := by
  have close (stop : Nat) (h : i ≤ stop) : Behind i
      ⟨some (.entity, if s.char stop = ';' then stop + 1 else stop), i,
        if s.char stop = ';' then stop + 1 else stop⟩ := by
    apply behind_some <;> split <;> omega
  have digits (p : Char → Bool) (j n : Nat) (h : i ≤ j) : Behind i
      (if s.spanUpTo p j n = j then ⟨none, i, j⟩ else
        ⟨some (.entity, if s.char (s.spanUpTo p j n) = ';' then s.spanUpTo p j n + 1
            else s.spanUpTo p j n), i,
          if s.char (s.spanUpTo p j n) = ';' then s.spanUpTo p j n + 1
            else s.spanUpTo p j n⟩) := by
    split
    · exact behind_none i j h
    · exact close _ (Nat.le_trans h (s.le_spanUpTo p j n))
  unfold entityAt
  dsimp only
  split
  · split
    · exact digits _ _ _ (by omega)
    · exact digits _ _ _ (by omega)
  · exact digits _ _ _ (by omega)

theorem le_lastSolid (s : Page) (stop n : Nat) : stop - n ≤ textAt.lastSolid s stop n := by
  induction n generalizing stop with
  | zero => exact Nat.le_refl stop
  | succ n ih =>
    rw [textAt.lastSolid]
    split
    · have := ih (stop - 1)
      omega
    · omega

theorem behind_textAt (s : Page) (i : Nat) : Behind i (textAt s i) := by
  unfold textAt
  dsimp only
  split
  · exact behind_none i i (Nat.le_refl i)
  · have hreach := s.le_spanEnd (fun c => c ≠ '<' && c ≠ '>' && c ≠ '&') i
    refine behind_some i _ _ .text hreach (Nat.le_trans ?_ (le_lastSolid s _ _))
    omega

theorem behind_tokenAt (m : Mode) (s : Page) (i : Nat) : Behind i (m.tokenAt s i) := by
  have hangle : Behind i (angleAt s i) := by
    unfold angleAt
    split
    · exact behind_some i _ _ _ (by omega) (by omega)
    · exact behind_some i _ _ _ (by omega) (by omega)
    · exact behind_one i _
  have hdoctype : Behind i (doctypeAt s i) := by
    unfold doctypeAt
    dsimp only
    split
    · exact behind_some i _ _ _ (by omega) (by omega)
    · exact behind_none i _ (by omega)
  have hself : Behind i (selfCloseAt s i) := by
    unfold selfCloseAt
    split
    · exact behind_some i _ _ _ (by omega) (by omega)
    · exact behind_none i _ (by omega)
  have hend : Behind i (endAt s i) := by
    unfold endAt
    split
    · exact behind_some i _ _ _ (by omega) (by omega)
    · exact behind_none i _ (by omega)
  have hrun (p : Char → Bool) (sym : Sym) : Behind i (.run i (s.spanEnd p i) sym) :=
    behind_run i _ sym (s.le_spanEnd p i)
  cases m with
  | any =>
    simp only [Mode.tokenAt]
    split
    · exact hangle
    · exact behind_one i _
    · exact hself
    · exact behind_one i _
    · exact behind_one i _
    · exact behind_one i _
    · exact behind_entityAt s i
    · exact hdoctype
    · exact hdoctype
    · exact hend
  | content =>
    simp only [Mode.tokenAt]
    split
    · exact hangle
    · exact behind_entityAt s i
    · exact behind_none i i (Nat.le_refl i)
    · split
      · exact behind_textAt s i
      · exact hend
  | doctype => exact hrun _ _
  | tag =>
    simp only [Mode.tokenAt]
    split
    · exact behind_one i _
    · exact hself
    · exact behind_one i _
    · exact hrun _ _
  | value =>
    simp only [Mode.tokenAt]
    split
    · exact behind_one i _
    · exact behind_one i _
    · exact hrun _ _
  | quoted q =>
    simp only [Mode.tokenAt]
    split
    · exact behind_one i _
    · exact hrun _ _

theorem behind_next (m : Mode) (s : Page) (i : Nat) : Behind i (m.next s i) := by
  have hbegin := s.le_begin i
  have hspace := s.le_spanEnd isSpace (s.begin i)
  have hstart : i ≤ if m.keepsSpace then s.begin i else s.spanEnd isSpace (s.begin i) := by
    split <;> omega
  have htoken := behind_tokenAt m s
    (if m.keepsSpace then s.begin i else s.spanEnd isSpace (s.begin i))
  exact ⟨Nat.le_trans hstart htoken.start, htoken.reach, htoken.token⟩

/-! ### Tokens that depend on the open tags -/

theorem le_rawTextEnd (s : Page) (delimiter : List Char) (n : Nat) (wanted : List Char)
    (i last : Nat) (h : last ≤ i) : last ≤ rawTextEnd s delimiter n wanted i last := by
  induction n generalizing wanted i last with
  | zero => exact Nat.le_refl last
  | succ n ih =>
    unfold rawTextEnd
    split
    · exact Nat.le_refl last
    · split
      · split
        · split
          · exact Nat.le_refl last
          · exact ih _ _ _ (by omega)
        · have := ih delimiter (i + 1) (i + 1) (Nat.le_refl _)
          omega
      · exact Nat.le_refl last

theorem le_commentEnd (s : Page) (n hyphens i stop : Nat)
    (h : commentEnd s n hyphens i = some stop) : i ≤ stop := by
  induction n generalizing hyphens i with
  | zero => contradiction
  | succ n ih =>
    rw [commentEnd] at h
    split at h
    · contradiction
    · have := ih _ _ h
      omega
    · split at h
      · cases h
        omega
      · have := ih _ _ h
        omega
    · have := ih _ _ h
      omega

theorem le_of_scanImplicitEnd (s : Page) (tags : List Tag) (start i : Nat) (t : Scanned)
    (h : scanImplicitEnd s tags start i = some t) : t.start ≤ t.stop := by
  have token (rest : List Tag) (h : some (⟨.implicitEnd, start, start, rest⟩ : Scanned) = some t) :
      t.start ≤ t.stop := by
    cases h
    exact Nat.le_refl start
  unfold scanImplicitEnd at h
  dsimp only at h
  split at h
  · split at h
    · contradiction
    · split at h
      · exact token _ h
      · contradiction
  · split at h
    · contradiction
    · split at h
      · exact token _ h
      · split at h
        · contradiction
        · split at h
          · exact token _ h
          · contradiction

theorem le_of_scanName (s : Page) (wanted : Wanted) (tags : List Tag) (i : Nat) (t : Scanned)
    (h : scanName s wanted tags i = some t) : t.start ≤ t.stop := by
  have hname := s.le_nameAt i
  unfold scanName at h
  dsimp only at h
  split at h
  · contradiction
  · split at h
    · cases h
      exact hname
    · split at h
      · cases h
        exact hname
      · cases h
        exact hname

theorem le_of_scanTag (s : Page) (wanted : Wanted) (tags : List Tag) (i : Nat) (t : Scanned)
    (h : scanTag s wanted tags i = some t) : t.start ≤ t.stop := by
  unfold scanTag at h
  dsimp only at h
  split at h
  · unfold scanRawText at h
    split at h
    · contradiction
    · cases h
      exact le_rawTextEnd s _ _ _ _ _ (Nat.le_refl _)
  · split at h
    · split at h
      · split at h
        · obtain ⟨stop, hstop, rfl⟩ := Option.map_eq_some_iff.mp h
          have := le_commentEnd s _ _ _ _ hstop
          dsimp only
          omega
        · contradiction
      · split at h
        · exact le_of_scanImplicitEnd s _ _ _ t h
        · contradiction
    · split at h
      · exact le_of_scanImplicitEnd s _ _ _ t h
      · contradiction
    · split at h
      · split at h
        · cases h
          dsimp only
          omega
        · cases h
          dsimp only
          omega
      · contradiction
    · split at h
      · exact le_of_scanName s _ _ _ t h
      · contradiction

end Glean.Markup
