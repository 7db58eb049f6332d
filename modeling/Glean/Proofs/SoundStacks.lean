import Glean.Proofs.SoundTrees
import Glean.Proofs.Transitions

set_option autoImplicit false

/-!
# Sound stacks

Every way down from a frame has a sound tree on it that leads from the state below to the state of
the frame, unless reading gave up there. Frames never change their states, so what is known of a way
down stays known while frames are added and joined.
-/
namespace Glean.Markup

/-- A tree leads from one state to another. Where tokens are passed over, and at the bottom, any
does. -/
def Tree.LeadsTo (t : Tree) (s next : State) : Prop :=
  next = .fault ∨ next = .start ∨ (t.extra = true ∧ s = next) ∨
    (t.extra = false ∧ s.GoesTo t.sym next)

def stateAt (frames : Array Frame) (i : Nat) : State := (frames.getD i default).state

/-- A way down to `l.below` from a frame in state `s`. -/
structure Link.Fits (frames : Array Frame) (s : State) (l : Link) : Prop where
  below : l.below < frames.size
  gaveUp : l.tree = none → s = .fault
  sound : ∀ t, l.tree = some t → t.Sound
  leads : ∀ t, l.tree = some t → t.LeadsTo (stateAt frames l.below) s

def Linked (frames : Array Frame) : Prop :=
  ∀ i, ∀ l ∈ (frames.getD i default).links, l.Fits frames (stateAt frames i)

/-- Frames are added and ways down, but states stay what they are. -/
structure Extends (frames more : Array Frame) : Prop where
  size : frames.size ≤ more.size
  state : ∀ i, i < frames.size → stateAt more i = stateAt frames i

theorem Link.Fits.mono {frames more : Array Frame} {s : State} {l : Link} (h : l.Fits frames s)
    (he : Extends frames more) : l.Fits more s := by
  refine ⟨Nat.lt_of_lt_of_le h.below he.size, h.gaveUp, h.sound, ?_⟩
  intro t ht
  rw [he.state _ h.below]
  exact h.leads t ht

section

variable (frames : Array Frame) (f : Frame)

theorem getD_push_of_lt (i : Nat) (h : i < frames.size) :
    (frames.push f).getD i default = frames.getD i default := by
  have hne : i ≠ frames.size := Nat.ne_of_lt h
  simp [Array.getElem?_push, hne]

theorem getD_push_size : (frames.push f).getD frames.size default = f := by
  simp

theorem getD_push_of_gt (i : Nat) (h : frames.size < i) :
    (frames.push f).getD i default = default := by
  have hout : (frames.push f).size ≤ i := by
    rw [Array.size_push]
    omega
  rw [Array.getD_eq_getD_getElem?, Array.getElem?_eq_none hout, Option.getD_none]

theorem extends_push : Extends frames (frames.push f) := by
  refine ⟨by rw [Array.size_push]; omega, ?_⟩
  intro i hi
  rw [stateAt, getD_push_of_lt frames f i hi, stateAt]

theorem stateAt_push_size : stateAt (frames.push f) frames.size = f.state := by
  rw [stateAt, getD_push_size]

theorem linked_push (h : Linked frames) (hf : ∀ l ∈ f.links, l.Fits frames f.state) :
    Linked (frames.push f) := by
  intro i l hl
  have he := extends_push frames f
  rcases Nat.lt_trichotomy i frames.size with hi | rfl | hi
  · rw [getD_push_of_lt frames f i hi] at hl
    rw [he.state i hi]
    exact (h i l hl).mono he
  · rw [getD_push_size] at hl
    rw [stateAt_push_size]
    exact (hf l hl).mono he
  · rw [getD_push_of_gt frames f i hi] at hl
    contradiction

end

/-! ### Joining -/

/-- Ways down are added to frames. -/
structure Joins (frames more : Array Frame) : Prop where
  linked : Linked more
  size : more.size = frames.size
  state : ∀ i, stateAt more i = stateAt frames i

theorem Joins.refl {frames : Array Frame} (h : Linked frames) : Joins frames frames :=
  ⟨h, rfl, fun _ => rfl⟩

theorem Joins.extends {frames more : Array Frame} (h : Joins frames more) : Extends frames more :=
  ⟨Nat.le_of_eq h.size.symm, fun i _ => h.state i⟩

theorem Joins.trans {a b c : Array Frame} (h : Joins a b) (k : Joins b c) : Joins a c :=
  ⟨k.linked, k.size.trans h.size, fun i => (k.state i).trans (h.state i)⟩

/-- What adds one way down at a time adds many. -/
theorem joins_foldl (add : Array Frame → Link → Array Frame) (i : Nat)
    (hadd : ∀ frames new, Linked frames → new.Fits frames (stateAt frames i) →
      Joins frames (add frames new))
    (links : List Link) (frames : Array Frame) (h : Linked frames)
    (hlinks : ∀ l ∈ links, l.Fits frames (stateAt frames i)) :
    Joins frames (links.foldl add frames) := by
  induction links generalizing frames with
  | nil => exact .refl h
  | cons l links ih =>
    have hfirst := hadd frames l h (hlinks l List.mem_cons_self)
    refine hfirst.trans (ih _ hfirst.linked ?_)
    intro k hk
    rw [hfirst.state]
    exact (hlinks k (List.mem_cons_of_mem l hk)).mono hfirst.extends

theorem state_eq_of_areLike (f g : Frame) (h : Branches.areLike f g = true) :
    f.state = g.state := by
  simp only [Branches.areLike, Bool.and_eq_true, decide_eq_true_eq] at h
  exact h.1.1

theorem getD_setIfInBounds (frames : Array Frame) (i j : Nat) (f : Frame) (hi : i < frames.size) :
    (frames.setIfInBounds i f).getD j default = if i = j then f else frames.getD j default := by
  rw [Array.getD_eq_getD_getElem?, Array.getElem?_setIfInBounds]
  split
  · rw [Option.getD_some]
  · rw [Array.getD_eq_getD_getElem?]

theorem joins_set (frames : Array Frame) (i : Nat) (f : Frame) (h : Linked frames)
    (hs : f.state = stateAt frames i) (hf : ∀ l ∈ f.links, l.Fits frames f.state) :
    Joins frames (frames.setIfInBounds i f) := by
  by_cases hi : i < frames.size
  · have hstate (j : Nat) : stateAt (frames.setIfInBounds i f) j = stateAt frames j := by
      rw [stateAt, getD_setIfInBounds frames i j f hi]
      split
      · rename_i heq
        rw [← heq, hs]
      · rfl
    have hext : Extends frames (frames.setIfInBounds i f) :=
      ⟨by rw [Array.size_setIfInBounds], fun j _ => hstate j⟩
    refine ⟨?_, Array.size_setIfInBounds, hstate⟩
    intro j l hl
    rw [getD_setIfInBounds frames i j f hi] at hl
    rw [hstate]
    split at hl
    · rename_i heq
      rw [← heq, ← hs]
      exact (hf l hl).mono hext
    · exact (h j l hl).mono hext
  · rw [Array.setIfInBounds_eq_of_size_le (by omega)]
    exact .refl h

theorem joins_link (page : Page) (fuel : Nat) (frames : Array Frame) (i : Nat) (new : Link)
    (h : Linked frames) (hn : new.Fits frames (stateAt frames i)) :
    Joins frames (Branches.link page fuel frames i new) := by
  induction fuel generalizing frames i new with
  | zero => exact .refl h
  | succ fuel ih =>
    rw [Branches.link]
    split
    · exact .refl h
    · dsimp only
      split
      · rename_i old hold
        split
        · exact .refl h
        · rename_i hne
          -- The frames that the two ways lead to are in one state.
          have hstate : stateAt frames old.below = stateAt frames new.below := by
            have hlike := List.find?_some hold
            simp only [Bool.and_eq_true, Bool.or_eq_true, decide_eq_true_eq] at hlike
            exact state_eq_of_areLike _ _ (hlike.2.resolve_left hne)
          apply joins_foldl _ old.below (fun frames l hf hl => ih frames old.below l hf hl) _ _ h
          intro l hl
          rw [hstate]
          exact h new.below l hl
      · split
        · exact .refl h
        · refine joins_set frames i _ h (by rfl) ?_
          intro l hl
          rcases List.mem_append.mp hl with hl | hl
          · exact h i l hl
          · rw [List.mem_singleton.mp hl]
            exact hn

end Glean.Markup
