import Glean.Proofs.SoundStacks

set_option autoImplicit false

/-!
# Sound branches

All that is done with the branches of a reading, to the end of a page, keeps them sound. Trees are
taken off a branch along a way down; the trees of an element are taken off in a state that tells
how many there are.
-/
namespace Glean.Markup

structure Branch.Fits (frames : Array Frame) (branch : Branch) : Prop where
  top : branch.top < frames.size
  stuck : ∀ next, branch.status = .stuck next → next.tree.IsToken

structure Branches.Sound (b : Branches) : Prop where
  linked : Linked b.frames
  bottom : 0 < b.frames.size
  fits : ∀ branch ∈ b.all, branch.Fits b.frames
  finished : ∀ t, b.finished = some t → ∀ c ∈ t.children, c.Sound

theorem Branch.Fits.mono {frames more : Array Frame} {branch : Branch} (h : branch.Fits frames)
    (he : Extends frames more) : branch.Fits more :=
  ⟨Nat.lt_of_lt_of_le h.top he.size, h.stuck⟩

theorem mem_modify {α : Type} (f : α → α) (xs : List α) (i : Nat) (x : α)
    (h : x ∈ xs.modify i f) : x ∈ xs ∨ ∃ y ∈ xs, x = f y := by
  induction xs generalizing i with
  | nil =>
    rw [List.modify_nil] at h
    contradiction
  | cons y xs ih =>
    cases i with
    | zero =>
      rw [List.modify_zero_cons] at h
      rcases List.mem_cons.mp h with rfl | h
      · exact .inr ⟨y, List.mem_cons_self, rfl⟩
      · exact .inl (List.mem_cons_of_mem y h)
    | succ i =>
      rw [List.modify_succ_cons] at h
      rcases List.mem_cons.mp h with rfl | h
      · exact .inl List.mem_cons_self
      · rcases ih i h with h | ⟨z, hz, heq⟩
        · exact .inl (List.mem_cons_of_mem y h)
        · exact .inr ⟨z, List.mem_cons_of_mem y hz, heq⟩

namespace Branches

section

variable {b : Branches}

theorem Sound.branch (h : b.Sound) (v : Nat) : (b.branch v).Fits b.frames := by
  unfold Branches.branch
  rw [List.getD_eq_getElem?_getD]
  cases hv : b.all[v]? with
  | none => exact ⟨h.bottom, nofun⟩
  | some branch => exact h.fits branch (List.mem_of_getElem? hv)

theorem Sound.links (h : b.Sound) (v : Nat) :
    ∀ l ∈ (b.top v).links, l.Fits b.frames (b.top v).state := h.linked _

theorem Sound.withAll (h : b.Sound) (all : List Branch)
    (hall : ∀ branch ∈ all, branch.Fits b.frames) : Sound { b with all } :=
  ⟨h.linked, h.bottom, hall, h.finished⟩

theorem Sound.withFrames (h : b.Sound) (frames : Array Frame) (hl : Linked frames)
    (he : Extends b.frames frames) : Sound { b with frames } :=
  ⟨hl, Nat.lt_of_lt_of_le h.bottom he.size, fun branch hb => (h.fits branch hb).mono he,
    h.finished⟩

theorem Sound.modify (h : b.Sound) (v : Nat) (f : Branch → Branch)
    (hf : ∀ branch : Branch, branch.Fits b.frames → (f branch).Fits b.frames) :
    (b.modify v f).Sound := by
  refine h.withAll _ ?_
  intro branch hb
  rcases mem_modify f b.all v branch hb with hb | ⟨old, hold, rfl⟩
  · exact h.fits branch hb
  · exact hf old (h.fits old hold)

theorem Sound.erase (h : b.Sound) (v : Nat) : (b.erase v).Sound :=
  h.withAll _ fun branch hb => h.fits branch (List.mem_of_mem_eraseIdx hb)

theorem Sound.halt (h : b.Sound) (v : Nat) : (b.halt v).Sound :=
  h.modify v _ fun _ hb => ⟨hb.top, nofun⟩

theorem Sound.take (h : b.Sound) (n : Nat) : Sound { b with all := b.all.take n } :=
  h.withAll _ fun branch hb => h.fits branch (List.mem_of_mem_take hb)

theorem Sound.add (h : b.Sound) (branch : Branch) (hb : branch.Fits b.frames) :
    (b.add branch).Sound := by
  refine h.withAll _ ?_
  intro other ho
  rcases List.mem_append.mp ho with ho | ho
  · exact h.fits other ho
  · rw [List.mem_singleton.mp ho]
    exact hb

theorem Sound.replace (h : b.Sound) (v target : Nat) : (b.replace v target).Sound := by
  unfold Branches.replace
  split
  · exact h
  · refine h.withAll _ ?_
    intro branch hb
    rcases List.mem_or_eq_of_mem_set (List.mem_of_mem_eraseIdx hb) with hb | rfl
    · exact h.fits branch hb
    · have hv := h.branch v
      split
      · exact ⟨hv.top, hv.stuck⟩
      · exact hv

theorem Sound.settle (h : b.Sound) : b.settle.Sound := by
  refine h.withAll _ ?_
  intro branch hb
  obtain ⟨old, hold, rfl⟩ := List.mem_map.mp hb
  exact ⟨(h.fits old hold).top, (h.fits old hold).stuck⟩

/-! ### Putting trees on a branch -/

@[simp] theorem size_push (v : Nat) (t : Tree) (s : State) : (b.push v t s).size = b.size :=
  List.length_modify ..

theorem branch_modify (v : Nat) (f : Branch → Branch) (hv : v < b.size) :
    (b.modify v f).branch v = f (b.branch v) := by
  have hv : v < b.all.length := hv
  change (b.all.modify v f).getD v default = f (b.all.getD v default)
  rw [List.getD_eq_getElem?_getD, List.getElem?_modify_eq, List.getD_eq_getElem?_getD,
    List.getElem?_eq_getElem hv]
  rfl

theorem state_push (v : Nat) (t : Tree) (s : State) (hv : v < b.size) :
    ((b.push v t s).top v).state = s := by
  have hbranch := branch_modify (b := b) v ({ · with top := b.frames.size }) hv
  change stateAt (b.push v t s).frames ((b.push v t s).branch v).top = s
  change stateAt _ ((b.modify v ({ · with top := b.frames.size })).branch v).top = s
  rw [hbranch]
  exact stateAt_push_size _ _

theorem Sound.push (h : b.Sound) (v : Nat) (t : Tree) (s : State) (ht : t.Sound)
    (hl : t.LeadsTo (b.top v).state s) : (b.push v t s).Sound := by
  let new : Frame :=
    { state := s, pos := (b.top v).pos + t.size, links := [⟨(b.branch v).top, t⟩]
      cost := (b.top v).cost + t.cost, weight := (b.top v).weight + t.weight }
  have hnew : ∀ l ∈ new.links, l.Fits b.frames new.state := by
    intro l hl'
    rw [List.mem_singleton.mp hl']
    refine ⟨(h.branch v).top, nofun, ?_, ?_⟩
    · rintro _ ⟨⟩
      exact ht
    · rintro _ ⟨⟩
      exact hl
  have hframes := h.withFrames (b.frames.push new) (linked_push b.frames new h.linked hnew)
    (extends_push b.frames new)
  refine hframes.modify v ({ · with top := b.frames.size }) ?_
  intro branch hb
  refine ⟨?_, hb.stuck⟩
  change b.frames.size < (b.frames.push new).size
  rw [Array.size_push]
  omega

theorem Sound.pushAll (h : b.Sound) (v : Nat) (ts : List Tree) (s : State) (hv : v < b.size)
    (hs : s = .start ∨ (b.top v).state = s) (hts : ∀ t ∈ ts, t.Sound ∧ t.extra = true) :
    (b.pushAll v ts s).Sound ∧ (b.pushAll v ts s).size = b.size := by
  unfold Branches.pushAll
  induction ts generalizing b with
  | nil => exact ⟨h, rfl⟩
  | cons t ts ih =>
    obtain ⟨hsound, hextra⟩ := hts t List.mem_cons_self
    have hpush := h.push v t s hsound (.inr (hs.imp_right fun hs => .inl ⟨hextra, hs⟩))
    have hrest := ih hpush (by rwa [size_push]) (.inr (state_push v t s hv))
      fun u hu => hts u (List.mem_cons_of_mem t hu)
    rw [size_push] at hrest
    exact hrest

theorem Sound.pushFault (h : b.Sound) (v : Nat) : (b.pushFault v).Sound := by
  let new : Frame := { b.top v with state := .fault, links := [⟨(b.branch v).top, none⟩] }
  have hnew : ∀ l ∈ new.links, l.Fits b.frames new.state := by
    intro l hl
    rw [List.mem_singleton.mp hl]
    exact ⟨(h.branch v).top, fun _ => rfl, nofun, nofun⟩
  have hframes := h.withFrames (b.frames.push new) (linked_push b.frames new h.linked hnew)
    (extends_push b.frames new)
  refine hframes.modify v
    ({ · with top := b.frames.size, weightAtFault := (b.top v).weight }) ?_
  intro branch hb
  refine ⟨?_, hb.stuck⟩
  change b.frames.size < (b.frames.push new).size
  rw [Array.size_push]
  omega

/-! ### Joining -/

theorem Sound.join? (h : b.Sound) (v w : Nat) (c : Branches) (hc : b.join? v w = some c) :
    c.Sound ∧ (w < b.size → c.size + 1 = b.size) := by
  unfold Branches.join? at hc
  split at hc
  · rename_i hcan
    have hstate : (b.top v).state = (b.top w).state := by
      simp only [canJoin, Bool.and_eq_true] at hcan
      exact state_eq_of_areLike _ _ hcan.1.2
    have hjoins : Joins b.frames
        ((b.top w).links.foldl (link b.page (b.frames.size + 1) · (b.branch v).top ·)
          b.frames) := by
      apply joins_foldl _ (b.branch v).top
        (fun frames l hf hl => joins_link b.page _ frames (b.branch v).top l hf hl) _ _ h.linked
      intro l hl
      change l.Fits b.frames (b.top v).state
      rw [hstate]
      exact h.links w l hl
    have hframes := h.withFrames _ hjoins.linked hjoins.extends
    cases hc
    refine ⟨?_, ?_⟩
    · apply Sound.erase
      split
      · exact hframes.modify v _ fun _ hb => ⟨hb.top, hb.stuck⟩
      · exact hframes
    · intro hw
      have hw : w < b.all.length := hw
      change (List.eraseIdx _ w).length + 1 = b.all.length
      split
      · rw [List.length_eraseIdx_of_lt (by exact (List.length_modify ..).symm ▸ hw)]
        change (b.all.modify v _).length - 1 + 1 = _
        rw [List.length_modify]
        omega
      · rw [List.length_eraseIdx_of_lt hw]
        omega
  · contradiction

theorem Sound.joinInto (h : b.Sound) (v : Nat) (ws : List Nat) (c : Branches)
    (hc : b.joinInto v ws = some c) : c.Sound ∧ (v < b.size → c.size + 1 = b.size) := by
  induction ws with
  | nil => contradiction
  | cons w ws ih =>
    rw [Branches.joinInto] at hc
    split at hc
    · rename_i hjoin
      cases hc
      exact h.join? w v c hjoin
    · exact ih hc

end

end Branches

end Glean.Markup
