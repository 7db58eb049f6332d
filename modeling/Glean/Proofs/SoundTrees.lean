import Glean.Markup.Branches
import Mathlib.Data.List.DropRight

set_option autoImplicit false

/-!
# Sound trees

In a sound tree no token ends before it begins, and an element begins with its start tag or is a
self-closing tag and nothing else. Phrases of sound trees are sound, if the trees of an element are
those of a way down that has its tag at the lower end.
-/
namespace Glean.Markup

namespace Tree

/-- A start tag is the first of some trees, or a self-closing tag is the only one. -/
def TagFirst (ts : List Tree) : Prop :=
  ∀ tag rest, ts = tag :: rest →
    tag.sym = .startTag ∨ (tag.sym = .selfClosingTag ∧ rest = [])

inductive Sound : Tree → Prop
  | intro (t : Tree) (lies : t.children = [] → t.start ≤ t.stop)
      (opens : t.sym = .element → TagFirst t.children)
      (below : ∀ c ∈ t.children, Sound c) : Sound t

theorem Sound.children {t : Tree} (h : t.Sound) : ∀ c ∈ t.children, c.Sound := by
  cases h with
  | intro _ _ _ below => exact below

/-- What a token is like. Only the end of a page stands outside the grammar. -/
structure IsToken (t : Tree) : Prop where
  leaf : t.children = []
  lies : t.start ≤ t.stop
  extra : t.extra = true → t.sym = .stop

theorem IsToken.sound {t : Tree} (h : t.IsToken) : t.Sound := by
  refine .intro t (fun _ => h.lies) ?_ ?_
  · intro _ tag rest heq
    rw [h.leaf] at heq
    contradiction
  · intro c hc
    rw [h.leaf] at hc
    contradiction

theorem Sound.asExtra {t : Tree} (h : t.Sound) : Sound { t with extra := true } := by
  cases h with
  | intro _ lies opens below => exact .intro _ lies opens below

theorem sound_missing (sym : Sym) (i : Nat) : (missing sym i).Sound := by
  apply IsToken.sound
  exact ⟨rfl, Nat.le_refl i, nofun⟩

theorem sound_phrase (s : Page) (sym : Sym) (children : List Tree) (i : Nat)
    (below : ∀ c ∈ children, c.Sound)
    (opens : sym = .element → TagFirst children) :
    (phrase s sym children i).Sound := by
  refine .intro _ ?_ opens below
  intro hnil
  have hnil : children = [] := hnil
  subst hnil
  exact Nat.le_refl i

theorem sound_error (s : Page) (sym : Sym) (children : List Tree) (i : Nat)
    (below : ∀ c ∈ children, c.Sound) (hs : sym ≠ .element) : (phrase s sym children i).Sound :=
  sound_phrase s sym children i below fun h => absurd h hs

end Tree

namespace Branches

theorem cutExtras_eq (ts : List Tree) :
    cutExtras ts = (ts.rdropWhile (·.extra), ts.rtakeWhile (·.extra)) := by
  have hsplit : ts.rdropWhile (·.extra) ++ ts.rtakeWhile (·.extra) = ts :=
    List.rdropWhile_append_rtakeWhile
  have hlength := congrArg List.length hsplit
  rw [List.length_append] at hlength
  unfold cutExtras
  change (ts.take (ts.length - (ts.rtakeWhile (·.extra)).length), ts.rtakeWhile (·.extra)) = _
  rw [Prod.mk.injEq]
  refine ⟨?_, rfl⟩
  calc
    _ = (ts.rdropWhile (·.extra) ++ ts.rtakeWhile (·.extra)).take
        (ts.length - (ts.rtakeWhile (·.extra)).length) := by rw [hsplit]
    _ = ts.rdropWhile (·.extra) := List.take_left' (by omega)

theorem mem_of_mem_cutExtras (ts : List Tree) (t : Tree)
    (h : t ∈ (cutExtras ts).1 ∨ t ∈ (cutExtras ts).2) : t ∈ ts := by
  rw [cutExtras_eq] at h
  rw [← List.rdropWhile_append_rtakeWhile (p := (·.extra)) (l := ts)]
  exact List.mem_append.mpr h

theorem extra_of_mem_cutExtras (ts : List Tree) (t : Tree) (h : t ∈ (cutExtras ts).2) :
    t.extra = true := by
  rw [cutExtras_eq] at h
  exact List.mem_rtakeWhile_imp h

/-- The tag of an element is at the lower end of a way down. -/
def HasTag (way : List Tree) : Prop :=
  ∃ tag rest, way = tag :: rest ∧ tag.extra = false ∧
    (tag.sym = .startTag ∨ (tag.sym = .selfClosingTag ∧ ∀ t ∈ rest, t.extra = true))

/-- What lies on a way down can become a phrase. -/
structure WayFits (sym : Sym) (way : List Tree) : Prop where
  sound : ∀ t ∈ way, t.Sound
  opens : sym = .element → HasTag way

theorem cutExtras_cons (tag : Tree) (rest : List Tree) (h : tag.extra = false) :
    (cutExtras (tag :: rest)).1 = tag :: rest.rdropWhile (·.extra) := by
  rw [cutExtras_eq]
  change (tag :: rest).rdropWhile (·.extra) = _
  unfold List.rdropWhile
  rw [List.reverse_cons, List.dropWhile_append]
  split
  · rename_i hnil
    rw [List.isEmpty_iff.mp hnil, List.dropWhile_cons_of_neg (by rw [h]; decide)]
    rfl
  · rw [List.reverse_append]
    rfl

theorem WayFits.sound_phrase {sym : Sym} {way : List Tree} (h : WayFits sym way) (page : Page)
    (i : Nat) : (Tree.phrase page sym (cutExtras way).1 i).Sound := by
  apply Tree.sound_phrase
  · intro c hc
    exact h.sound c (mem_of_mem_cutExtras way c (.inl hc))
  · intro hs tag rest heq
    obtain ⟨first, others, rfl, hin, hsym⟩ := h.opens hs
    rw [cutExtras_cons first others hin, List.cons.injEq] at heq
    obtain ⟨rfl, rfl⟩ := heq
    rcases hsym with hsym | ⟨hsym, hextra⟩
    · exact .inl hsym
    · exact .inr ⟨hsym, List.rdropWhile_eq_nil_iff.mpr hextra⟩

theorem exists_bestPhrase (page : Page) (sym : Sym) (i : Nat) (ways : List (List Tree)) :
    ∃ way, (way ∈ ways ∨ way = []) ∧ bestPhrase page sym i ways =
      (.phrase page sym (cutExtras way).1 i, (cutExtras way).2) := by
  cases ways with
  | nil => exact ⟨[], .inr rfl, rfl⟩
  | cons way ways =>
    have hfold (best : Tree × List Tree) (more : List (List Tree))
        (hmore : ∀ w ∈ more, w ∈ way :: ways)
        (hbest : ∃ w ∈ way :: ways,
          best = (.phrase page sym (cutExtras w).1 i, (cutExtras w).2)) :
        ∃ w ∈ way :: ways, more.foldl (fun best w =>
          if best.1.prefersSecond (.phrase page sym (cutExtras w).1 i) then
            (.phrase page sym (cutExtras w).1 i, (cutExtras w).2) else best) best =
          (.phrase page sym (cutExtras w).1 i, (cutExtras w).2) := by
      induction more generalizing best with
      | nil => exact hbest
      | cons w more ih =>
        apply ih _ fun u hu => hmore u (List.mem_cons_of_mem w hu)
        dsimp only
        split
        · exact ⟨w, hmore w List.mem_cons_self, rfl⟩
        · exact hbest
    obtain ⟨w, hw, heq⟩ := hfold _ ways (fun w hw => List.mem_cons_of_mem way hw)
      ⟨way, List.mem_cons_self, rfl⟩
    exact ⟨w, .inl hw, heq⟩

theorem sound_bestPhrase (page : Page) (sym : Sym) (i : Nat) (ways : List (List Tree))
    (h : ∀ way ∈ ways, WayFits sym way) :
    (bestPhrase page sym i ways).1.Sound ∧
      (bestPhrase page sym i ways).1.sym = sym ∧ (bestPhrase page sym i ways).1.extra = false ∧
      ∀ t ∈ (bestPhrase page sym i ways).2, t.Sound ∧ t.extra = true := by
  obtain ⟨way, hway, heq⟩ := exists_bestPhrase page sym i ways
  rw [heq]
  have hextra : ∀ t ∈ (cutExtras way).2, t.extra = true := extra_of_mem_cutExtras way
  rcases hway with hway | rfl
  · have hfits := h way hway
    refine ⟨hfits.sound_phrase page i, rfl, rfl, fun t ht => ⟨?_, hextra t ht⟩⟩
    exact hfits.sound t (mem_of_mem_cutExtras way t (.inr ht))
  · refine ⟨Tree.sound_phrase _ _ _ _ ?_ ?_, rfl, rfl, fun t ht => by contradiction⟩
    · intro c hc
      contradiction
    · intro _ tag rest heq
      contradiction

end Branches

end Glean.Markup
