import Glean.Proofs.SoundBranches

set_option autoImplicit false

/-!
# Sound reductions

Trees are taken off a branch along a way down. The trees of an element are taken off in a state that
tells how many they are, so its tag is at the lower end.
-/
namespace Glean.Markup

namespace Branches

section

variable {σ : Type} (frames : Array Frame) (judge : σ → Walker → Frame → σ × Verdict)
  (P Q : Walker → Prop)

/-- What is kept where a way is followed holds of all ways that are followed. -/
theorem of_mem_walkRound
    (hfollow : ∀ s w, P w → (judge s w (frames.getD w.at' default)).2.stops = false →
      ∀ l ∈ (frames.getD w.at' default).links, P (w.follow l))
    (hpop : ∀ s w, P w → (judge s w (frames.getD w.at' default)).2.pops = true → Q w)
    (s : σ) (ws kept fresh popped : List Walker) (hws : ∀ w ∈ ws, P w) (hkept : ∀ w ∈ kept, P w)
    (hfresh : ∀ w ∈ fresh, P w) (hpopped : ∀ w ∈ popped, Q w) :
    (∀ w ∈ (walkRound frames judge s ws kept fresh popped).2.1, P w) ∧
      ∀ w ∈ (walkRound frames judge s ws kept fresh popped).2.2, Q w := by
  induction ws generalizing s kept fresh popped with
  | nil =>
    refine ⟨?_, hpopped⟩
    intro w hw
    rcases List.mem_append.mp hw with hw | hw
    · exact hkept w (List.mem_reverse.mp hw)
    · exact hfresh w (List.mem_reverse.mp hw)
  | cons w ws ih =>
    have hw := hws w List.mem_cons_self
    have hrest : ∀ u ∈ ws, P u := fun u hu => hws u (List.mem_cons_of_mem w hu)
    have hpopped : ∀ u ∈ (if (judge s w (frames.getD w.at' default)).2.pops then w :: popped
        else popped), Q u := by
      intro u hu
      split at hu
      · rename_i hpops
        rcases List.mem_cons.mp hu with rfl | hu
        · exact hpop s u hw hpops
        · exact hpopped u hu
      · exact hpopped u hu
    rw [walkRound]
    dsimp only
    split
    · rename_i first others hlinks hstops
      have hfollow := hfollow s w hw hstops
      rw [hlinks] at hfollow
      apply ih _ _ _ _ hrest _ _ hpopped
      · intro u hu
        rcases List.mem_cons.mp hu with rfl | hu
        · exact hfollow first List.mem_cons_self
        · exact hkept u hu
      · intro u hu
        rcases List.mem_append.mp hu with hu | hu
        · obtain ⟨l, hl, rfl⟩ := List.mem_map.mp (List.mem_reverse.mp hu)
          exact hfollow l (List.mem_cons_of_mem first (List.mem_of_mem_take hl))
        · exact hfresh u hu
    · exact ih _ _ _ _ hrest hkept hfresh hpopped

theorem of_mem_walk
    (hfollow : ∀ s w, P w → (judge s w (frames.getD w.at' default)).2.stops = false →
      ∀ l ∈ (frames.getD w.at' default).links, P (w.follow l))
    (hpop : ∀ s w, P w → (judge s w (frames.getD w.at' default)).2.pops = true → Q w)
    (fuel : Nat) (s : σ) (ws popped : List Walker) (hws : ∀ w ∈ ws, P w)
    (hpopped : ∀ w ∈ popped, Q w) : ∀ w ∈ (walk frames judge fuel s ws popped).2, Q w := by
  induction fuel generalizing s ws popped with
  | zero => exact fun w hw => hpopped w (List.mem_reverse.mp hw)
  | succ fuel ih =>
    rw [walk]
    split
    · exact fun w hw => hpopped w (List.mem_reverse.mp hw)
    · have hround := of_mem_walkRound frames judge P Q hfollow hpop s ws [] [] popped hws
        (by simp) (by simp) hpopped
      exact ih _ _ _ hround.1 hround.2

end

theorem follow_of_extra (w : Walker) (l : Link) (t : Tree) (h : l.tree = some t)
    (he : t.extra = true) : w.follow l = ⟨l.below, t :: w.trees, w.depth⟩ := by
  rw [Walker.follow, h]
  dsimp only
  rw [if_pos he]

theorem follow_of_inner (w : Walker) (l : Link) (t : Tree) (h : l.tree = some t)
    (he : t.extra = false) : w.follow l = ⟨l.below, t :: w.trees, w.depth + 1⟩ := by
  rw [Walker.follow, h]
  dsimp only
  rw [he]
  rfl

/-- How far a way down an element of `n` symbols has come: the state tells what is left of it, or
its tag was reached. -/
def InElement (frames : Array Frame) (n : Nat) (w : Walker) : Prop :=
  (w.depth < n ∧ (stateAt frames w.at').ofElement + w.depth = n ∧
    ((stateAt frames w.at').isSelf = true → ∀ t ∈ w.trees, t.extra = true)) ∨
  (w.depth = n ∧ HasTag w.trees)

theorem ofElement_pos (s : State) (h : s.endsElement = true) : 0 < s.ofElement := by
  cases s <;> first
    | contradiction
    | exact Nat.succ_pos _

theorem InElement.follow {frames : Array Frame} {n : Nat} {w : Walker} (h : InElement frames n w)
    (hd : w.depth ≠ n) (l : Link) (hl : l.Fits frames (stateAt frames w.at')) :
    InElement frames n (w.follow l) := by
  rcases h with ⟨hlt, hof, hself⟩ | ⟨heq, -⟩
  · have hstate : (stateAt frames w.at').ofElement ≠ 0 := by omega
    cases htree : l.tree with
    | none =>
      rw [hl.gaveUp htree] at hstate
      contradiction
    | some t =>
      -- A tree outside the grammar leaves the state as it is, any other takes one symbol back.
      rcases hl.leads t htree with hs | hs | ⟨hextra, hs⟩ | ⟨hin, hgoes⟩
      · rw [hs] at hstate
        contradiction
      · rw [hs] at hstate
        contradiction
      · rw [follow_of_extra w l t htree hextra]
        refine .inl ⟨hlt, hs ▸ hof, ?_⟩
        intro h u hu
        rcases List.mem_cons.mp hu with rfl | hu
        · exact hextra
        · exact hself (hs ▸ h) u hu
      · rw [follow_of_inner w l t htree hin]
        unfold InElement
        dsimp only
        rcases hgoes.elementStep with hs | ⟨hone, htag⟩ | ⟨hmore, hpos, hbelow⟩
        · contradiction
        · refine .inr ⟨by omega, t, w.trees, rfl, hin, ?_⟩
          exact htag.imp_right fun htag => ⟨htag.1, hself htag.2⟩
        · refine .inl ⟨by omega, by omega, ?_⟩
          intro h
          rw [hbelow] at h
          contradiction
  · contradiction

theorem sound_follow {frames : Array Frame} {s : State} {w : Walker}
    (h : ∀ t ∈ w.trees, t.Sound) (l : Link) (hl : l.Fits frames s) :
    ∀ t ∈ (w.follow l).trees, t.Sound := by
  unfold Walker.follow
  split
  · rename_i t htree
    intro u hu
    rcases List.mem_cons.mp hu with rfl | hu
    · exact hl.sound u htree
    · exact h u hu
  · exact h

/-- What is known of a way down from a frame in state `s`, of which `n` trees are taken. -/
structure Descent (frames : Array Frame) (s : State) (n : Nat) (w : Walker) : Prop where
  at' : w.at' < frames.size
  sound : ∀ t ∈ w.trees, t.Sound
  element : s.endsElement = true → n = s.ofElement → InElement frames n w

theorem Descent.follow {frames : Array Frame} {s : State} {n : Nat} {w : Walker}
    (h : Descent frames s n w) (hd : w.depth ≠ n) (l : Link)
    (hl : l.Fits frames (stateAt frames w.at')) : Descent frames s n (w.follow l) := by
  refine ⟨?_, sound_follow h.sound l hl, fun hs hn => (h.element hs hn).follow hd l hl⟩
  unfold Walker.follow
  split
  · exact hl.below
  · exact hl.below

section

variable {b : Branches}

/-- A group of ways that end in one frame. -/
def Gathers (b : Branches) (P : List Tree → Prop) (g : Nat × List (List Tree)) : Prop :=
  g.1 < b.frames.size ∧ ∀ way ∈ g.2, P way

theorem gathers_gather (P : List Tree → Prop) (ws : List Walker)
    (groups : List (Nat × List (List Tree)))
    (hws : ∀ w ∈ ws, w.at' < b.frames.size ∧ P w.trees) (hg : ∀ g ∈ groups, b.Gathers P g) :
    ∀ g ∈ gather ws groups, b.Gathers P g := by
  induction ws generalizing groups with
  | nil => exact hg
  | cons w ws ih =>
    obtain ⟨hat, hw⟩ := hws w List.mem_cons_self
    rw [gather]
    split
    · apply ih _ fun u hu => hws u (List.mem_cons_of_mem w hu)
      intro g hg'
      obtain ⟨old, hold, rfl⟩ := List.mem_map.mp hg'
      split
      · refine ⟨(hg old hold).1, ?_⟩
        intro way hway
        rcases List.mem_append.mp hway with hway | hway
        · exact (hg old hold).2 way hway
        · rw [List.mem_singleton.mp hway]
          exact hw
      · exact hg old hold
    · apply ih _ fun u hu => hws u (List.mem_cons_of_mem w hu)
      intro g hg'
      rcases List.mem_append.mp hg' with hg' | hg'
      · exact hg g hg'
      · rw [List.mem_singleton.mp hg']
        refine ⟨hat, ?_⟩
        intro way hway
        rw [List.mem_singleton.mp hway]
        exact hw

/-- What comes of taking trees off a branch: new branches behind the others, each with the trees
that were taken off it. -/
structure Takes (b c : Branches) (P : List Tree → Prop) (ps : List Popped) : Prop where
  sound : c.Sound
  size : c.size = b.size + ps.length
  numbers : ps.map (·.branch) = List.range' b.size ps.length
  ways : ∀ p ∈ ps, ∀ way ∈ p.ways, P way

theorem Sound.addPopped (h : b.Sound) (v : Nat) (P : List Tree → Prop) (ws : List Walker)
    (hws : ∀ w ∈ ws, w.at' < b.frames.size ∧ P w.trees) :
    b.Takes (b.addPopped v ws).1 P (b.addPopped v ws).2 := by
  have hgroups := gathers_gather P ws [] hws (by simp)
  unfold Branches.addPopped
  refine ⟨?_, ?_, ?_, ?_⟩
  · refine h.withAll _ ?_
    intro branch hb
    rcases List.mem_append.mp hb with hb | hb
    · exact h.fits branch hb
    · obtain ⟨g, hg, rfl⟩ := List.mem_map.mp hb
      exact ⟨(hgroups g hg).1, nofun⟩
  · simp [Branches.size]
  · apply List.ext_getElem
    · simp
    · simp
  · intro p hp way hway
    obtain ⟨k, hk, rfl⟩ := List.mem_mapIdx.mp hp
    exact (hgroups _ (List.getElem_mem hk)).2 way hway

theorem Sound.pop (h : b.Sound) (v n : Nat) :
    b.Takes (b.pop v n).1 (fun way => (∀ t ∈ way, t.Sound) ∧
      ((b.top v).state.endsElement = true → n = (b.top v).state.ofElement →
        WayFits .element way)) (b.pop v n).2 := by
  apply h.addPopped v
  refine of_mem_walk b.frames _ (Descent b.frames (b.top v).state n) _ ?_ ?_ _ () _ [] ?_
    (by simp)
  · intro _ w hw hstops l hl
    apply hw.follow _ l (h.linked w.at' l hl)
    intro hd
    rw [if_pos hd] at hstops
    contradiction
  · intro _ w hw hpops
    have hd : w.depth = n := by
      apply Classical.byContradiction
      intro hd
      rw [if_neg hd] at hpops
      contradiction
    refine ⟨hw.at', hw.sound, fun hs hn => ⟨hw.sound, fun _ => ?_⟩⟩
    rcases hw.element hs hn with ⟨hlt, -⟩ | ⟨-, htag⟩
    · omega
    · exact htag
  · intro w hw
    rw [List.mem_singleton.mp hw]
    refine ⟨(h.branch v).top, by simp, ?_⟩
    intro hs hn
    have hpos := ofElement_pos _ hs
    refine .inl ⟨?_, hn.symm, by simp⟩
    change 0 < n
    omega

theorem Sound.waysToBottom (h : b.Sound) (v : Nat) :
    ∀ way ∈ b.waysToBottom v, ∀ t ∈ way, t.Sound := by
  intro way hway
  obtain ⟨w, hw, rfl⟩ := List.mem_map.mp hway
  refine of_mem_walk b.frames _ (fun w => ∀ t ∈ w.trees, t.Sound)
    (fun w => ∀ t ∈ w.trees, t.Sound) ?_ ?_ _ () _ [] ?_ (by simp) w hw
  · intro _ u hu _ l hl
    exact sound_follow hu l (h.linked u.at' l hl)
  · exact fun _ u hu _ => hu
  · intro u hu
    rw [List.mem_singleton.mp hu]
    simp

theorem sound_rootOf (page : Page) (ts : List Tree) (hts : ∀ t ∈ ts, t.Sound) (root : Tree)
    (h : rootOf page ts = some root) : ∀ c ∈ root.children, c.Sound := by
  unfold rootOf at h
  split at h
  · contradiction
  · rename_i last before hlast
    cases h
    have hmem : ∀ t ∈ last :: before, t.Sound := by
      intro t ht
      rw [← hlast] at ht
      exact hts t (List.mem_reverse.mp (List.dropWhile_subset _ ht))
    intro c hc
    rcases List.mem_append.mp hc with hc | hc
    · rcases List.mem_append.mp hc with hc | hc
      · exact hmem c (List.mem_cons_of_mem last (List.mem_reverse.mp hc))
      · exact (hmem last List.mem_cons_self).children c hc
    · have hc := List.takeWhile_subset _ (List.mem_reverse.mp hc)
      exact hts c (List.mem_reverse.mp hc)

/-- The better one of two is one of the two. -/
theorem of_foldl_better (P : Tree → Prop) (roots : List Tree) (best : Option Tree)
    (hroots : ∀ root ∈ roots, P root) (hbest : ∀ t, best = some t → P t) :
    ∀ t, roots.foldl (fun best root =>
      match best with
      | some t => if t.prefersSecond root then some root else some t
      | none => some root) best = some t → P t := by
  induction roots generalizing best with
  | nil => exact hbest
  | cons root roots ih =>
    have hroot := hroots root List.mem_cons_self
    apply ih _ fun u hu => hroots u (List.mem_cons_of_mem root hu)
    intro t ht
    cases best with
    | none =>
      cases ht
      exact hroot
    | some old =>
      dsimp only at ht
      split at ht
      · cases ht
        exact hroot
      · exact hbest t ht

theorem Sound.accept (h : b.Sound) (v : Nat) (stop : Tree) (hstop : stop.Sound) :
    (b.accept v stop).Sound := by
  have hpush := h.push v { stop with extra := true } .start hstop.asExtra (.inr (.inl rfl))
  have hhalt := hpush.halt v
  refine ⟨hhalt.linked, hhalt.bottom, hhalt.fits, ?_⟩
  apply of_foldl_better (fun t => ∀ c ∈ t.children, c.Sound)
  · intro root hroot
    obtain ⟨way, hway, hroot⟩ := List.mem_filterMap.mp hroot
    exact sound_rootOf b.page way (hpush.waysToBottom v way hway) root hroot
  · exact hpush.finished

/-! ### Reductions -/

theorem leadsTo_goto (t : Tree) (s : State) (h : t.extra = false) :
    t.LeadsTo s ((s.goto t.sym).getD .fault) := by
  cases hgoto : s.goto t.sym with
  | none => exact .inl rfl
  | some next => exact .inr (.inr (.inr ⟨h, .inl hgoto⟩))

theorem Sound.reducePopped (v : Nat) (sym : Sym) (limit : Nat) (ps : List Popped) (first : Nat)
    (erased : Nat) (h : b.Sound) (hle : erased ≤ first)
    (hsize : b.size + erased = first + ps.length)
    (hnumbers : ps.map (·.branch) = List.range' first ps.length)
    (hways : ∀ p ∈ ps, ∀ way ∈ p.ways, WayFits sym way) :
    (reducePopped v sym limit b erased ps).Sound := by
  -- The branches that are left are the last ones, so none of the numbers points beyond the end.
  induction ps generalizing b first erased with
  | nil => exact h
  | cons p ps ih =>
    have hfirst : p.branch = first ∧ ps.map (·.branch) = List.range' (first + 1) ps.length := by
      rw [List.map_cons, List.length_cons, List.range'_succ, List.cons.injEq] at hnumbers
      exact hnumbers
    obtain ⟨hp, hrest⟩ := hfirst
    have hrestWays : ∀ q ∈ ps, ∀ way ∈ q.ways, WayFits sym way :=
      fun q hq => hways q (List.mem_cons_of_mem p hq)
    rw [List.length_cons] at hsize
    have hw : p.branch - erased < b.size := by omega
    rw [Branches.reducePopped]
    split
    · refine ih (first + 1) (erased + 1) (h.erase _) (by omega) ?_ hrest hrestWays
      have hlength : (b.erase (p.branch - erased)).size + 1 = b.size := by
        have hw : p.branch - erased < b.all.length := hw
        change (b.all.eraseIdx _).length + 1 = b.all.length
        rw [List.length_eraseIdx_of_lt hw]
        omega
      omega
    · obtain ⟨hsound, hsym, hin, hextras⟩ := sound_bestPhrase b.page sym
        (b.top (p.branch - erased)).pos p.ways (hways p List.mem_cons_self)
      have hleads := leadsTo_goto (bestPhrase b.page sym (b.top (p.branch - erased)).pos p.ways).1
        (b.top (p.branch - erased)).state hin
      rw [hsym] at hleads
      have hpush := h.push (p.branch - erased) _ _ hsound hleads
      obtain ⟨hall, hallSize⟩ := hpush.pushAll (p.branch - erased) _ _ (by rwa [size_push])
        (.inr (state_push _ _ _ hw)) hextras
      rw [size_push] at hallSize
      dsimp only
      split
      · rename_i c hjoin
        obtain ⟨hc, hsizeJoin⟩ := hall.joinInto _ _ c hjoin
        have hsizeJoin := hsizeJoin (by omega)
        exact ih (first + 1) (erased + 1) hc (by omega) (by omega) hrest hrestWays
      · exact ih (first + 1) erased hall (by omega) (by omega) hrest hrestWays

/-- A phrase is reduced soundly, an element in a state that tells how many symbols it has. -/
theorem Sound.reduce (h : b.Sound) (v : Nat) (sym : Sym) (n : Nat)
    (hs : sym = .element →
      (b.top v).state.endsElement = true ∧ n = (b.top v).state.ofElement) :
    (b.reduce v sym n).1.Sound := by
  have hpop := h.pop v n
  refine hpop.sound.reducePopped v sym _ _ b.size 0 (Nat.zero_le _) hpop.size hpop.numbers ?_
  intro p hp way hway
  obtain ⟨hsound, helement⟩ := hpop.ways p hp way hway
  refine ⟨hsound, fun he => ?_⟩
  obtain ⟨hends, hn⟩ := hs he
  exact (helement hends hn).opens rfl

end

end Branches

end Glean.Markup
