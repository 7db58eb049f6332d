import Glean.Markup.Reading
import Glean.Proofs.SoundRecovery
import Glean.Proofs.TokenBounds

set_option autoImplicit false

/-!
# The tree of a page is sound

Every round of a reading keeps its branches sound, so the tree that is found in the end is sound.
-/
namespace Glean.Markup

namespace Reading

open Branches (Sound)

variable {b : Branches}

/-! ### Tokens -/

theorem isToken_tagToken (b : Branches) (v : Nat) (lost : Bool) (i : Nat) (next : Ahead)
    (h : tagToken b v lost i = some next) : next.tree.IsToken := by
  unfold tagToken at h
  obtain ⟨found, hfound, h⟩ := Option.bind_eq_some_iff.mp h
  have hle := le_of_scanTag _ _ _ _ _ hfound
  dsimp only at h
  split at h
  · contradiction
  · cases h
    exact ⟨rfl, hle, nofun⟩

theorem isToken_plainToken (b : Branches) (v : Nat) (m : Mode) (next : Ahead)
    (h : (plainToken b v m).2 = some next) : next.tree.IsToken := by
  have hbehind := behind_next m b.page (b.top v).pos
  obtain ⟨⟨sym, stop⟩, htoken, rfl⟩ := Option.map_eq_some_iff.mp h
  exact ⟨rfl, hbehind.token sym stop htoken, of_decide_eq_true⟩

theorem isToken_skipToToken (b : Branches) (v fuel start stop i : Nat) (h : start ≤ stop)
    (hi : stop ≤ i) : (skipToToken b v fuel start stop i).tree.IsToken := by
  have hunread (stop : Nat) (h : start ≤ stop) :
      (skipToToken.unread b v start stop).tree.IsToken := ⟨rfl, h, nofun⟩
  induction fuel generalizing stop i with
  | zero => exact hunread stop h
  | succ fuel ih =>
    have hbehind := behind_next .any b.page i
    have hreach : i ≤ (Mode.any.next b.page i).reach := Nat.le_trans hbehind.start hbehind.reach
    rw [skipToToken]
    split
    · exact hunread stop h
    · dsimp only
      split
      · exact hunread stop h
      · split
        · exact ih _ _ (by omega) (Nat.le_refl _)
        · split
          · exact hunread stop h
          · exact ih _ _ (by omega) (Nat.le_refl _)

theorem isToken_nextToken (b : Branches) (v : Nat) : (nextToken b v).tree.IsToken := by
  unfold nextToken
  dsimp only
  split
  · rename_i next hnext
    split at hnext
    · contradiction
    · split at hnext
      · rename_i found hfound
        cases hnext
        exact isToken_tagToken _ _ _ _ _ hfound
      · exact isToken_plainToken _ _ _ _ hnext
  · split
    · rename_i next hnext
      exact isToken_tagToken _ _ _ _ _ hnext
    · split
      · rename_i found next hplain
        exact isToken_plainToken b v .any next (congrArg Prod.snd hplain)
      · rename_i found hplain
        have hbehind := behind_next .any b.page (b.top v).pos
        have hfound : Mode.any.next b.page (b.top v).pos = found := congrArg Prod.fst hplain
        rw [hfound] at hbehind
        have hreach := hbehind.reach
        split
        · exact isToken_skipToToken _ _ _ _ _ _ hreach (Nat.le_refl _)
        · split
          · exact ⟨rfl, Nat.le_refl _, nofun⟩
          · exact isToken_skipToToken _ _ _ _ _ _ (by omega) (Nat.le_refl _)

/-! ### Rounds of a reading -/

theorem sound_shift (h : b.Sound) (v : Nat) (t : Tree) (target : State) (ht : t.Sound)
    (hl : t.LeadsTo (b.top v).state target) : (act.shift v b t target).Sound := by
  have hpush := h.push v t target ht hl
  unfold act.shift
  dsimp only
  split
  · exact hpush.modify v _ fun _ hb => ⟨hb.top, hb.stuck⟩
  · exact hpush

theorem sound_actRun_nil (h : b.Sound) (v : Nat) (next : Ahead) (hnext : next.tree.IsToken)
    (state : State) (last : Option Nat) (reduced : Bool) :
    (act.run v next state b last reduced []).1.Sound := by
  rw [act.run]
  split
  · exact h
  · split
    · exact h.halt v
    · refine h.modify v _ fun _ hb => ⟨hb.top, ?_⟩
      rintro _ ⟨⟩
      exact hnext

theorem sound_actRun_reduce (h : b.Sound) (v : Nat) (next : Ahead) (hnext : next.tree.IsToken)
    (sym : Sym) (n : Nat) (hs : (Action.reduce sym n).Suits (b.top v).state next.tree.sym)
    (rest : List Action) (hrest : rest = [] ∨ ∃ target, rest = [.shiftOn target]) :
    (act.run v next (b.top v).state b none false (.reduce sym n :: rest)).1.Sound := by
  have hreduce := h.reduce v sym n (by
    intro he
    rw [Action.Suits] at hs
    split at hs
    · rename_i hends
      exact ⟨hends, hs.2⟩
    · exact absurd he hs)
  have hgo (c : Branches) (hc : c.Sound) (last : Option Nat) :
      (act.run v next (b.top v).state c last true rest).1.Sound := by
    rcases hrest with rfl | ⟨target, rfl⟩
    · exact sound_actRun_nil hc v next hnext (b.top v).state last true
    · exact sound_actRun_nil hc v next hnext (b.top v).state last true
  rw [act.run]
  split
  · rename_i c w heq
    rw [heq] at hreduce
    exact hgo c hreduce _
  · rename_i c heq
    rw [heq] at hreduce
    exact hgo c hreduce _

theorem sound_actRun (h : b.Sound) (v : Nat) (next : Ahead) (hnext : next.tree.IsToken) :
    (act.run v next (b.top v).state b none false
      ((b.top v).state.action next.tree.sym)).1.Sound := by
  have hsuits := (b.top v).state.suits_action next.tree.sym
  have hgoes (target : State) (hmem : .shift target ∈ (b.top v).state.action next.tree.sym) :
      next.tree.LeadsTo (b.top v).state target := by
    have hin : next.tree.extra = false := by
      rw [Bool.eq_false_iff]
      intro hextra
      exact (hsuits _ hmem).2.1 (hnext.extra hextra)
    exact .inr (.inr (.inr ⟨hin, .inr (.inl hmem)⟩))
  have hshape := (b.top v).state.actions_action next.tree.sym
  generalize (b.top v).state.action next.tree.sym = actions at hshape hsuits hgoes ⊢
  cases hshape with
  | none => exact sound_actRun_nil h v next hnext _ none false
  | shift target =>
    exact sound_shift h v next.tree target hnext.sound (hgoes target List.mem_cons_self)
  | shiftExtra =>
    exact sound_shift h v _ _ hnext.sound.asExtra (.inr (.inr (.inl ⟨rfl, rfl⟩)))
  | accept => exact h.accept v next.tree hnext.sound
  | recover => exact h.recover v next hnext
  | reduce sym n =>
    exact sound_actRun_reduce h v next hnext sym n (hsuits _ List.mem_cons_self) [] (.inl rfl)
  | shiftOn sym n target =>
    exact sound_actRun_reduce h v next hnext sym n (hsuits _ List.mem_cons_self) _
      (.inr ⟨target, rfl⟩)

theorem sound_act (h : b.Sound) (v : Nat) (next : Ahead) (hnext : next.tree.IsToken)
    (fuel : Nat) : (act v next fuel b).Sound := by
  induction fuel generalizing b with
  | zero => exact h.halt v
  | succ fuel ih =>
    have hrun := sound_actRun h v next hnext
    rw [act]
    split
    · rename_i c w heq
      rw [heq] at hrun
      exact ih (hrun.replace w v)
    · rename_i c last _ heq
      rw [heq] at hrun
      exact hrun

/-- What is known of a reading between two rounds. -/
structure Steady (r : Reading) : Prop where
  branches : r.branches.Sound
  remembered : ∀ old, r.remembered = some old → old.next.tree.IsToken

theorem steady_advance (r : Reading) (h : r.Steady) (v : Nat) : (r.advance v).Steady := by
  have hnow : ∀ known : Option Remembered, (∀ old, known = some old → r.remembered = some old) →
      (known.getD ⟨(r.branches.top v).pos, (r.branches.branch v).tags, (r.branches.top v).state,
        nextToken r.branches v⟩).next.tree.IsToken := by
    intro known hknown
    cases known with
    | none => exact isToken_nextToken r.branches v
    | some old => exact h.remembered old (hknown old rfl)
  have htoken := hnow (r.remembered.filter fun old =>
    old.pos = (r.branches.top v).pos && old.tags = (r.branches.branch v).tags &&
      canReuse old (r.branches.top v).state)
    fun old hold => Option.eq_some_of_filter_eq_some hold
  refine ⟨sound_act h.branches v _ htoken _, ?_⟩
  rintro _ ⟨⟩
  exact htoken

theorem sound_weigh (standing : Branches.Standing) (i fuel j : Nat) (h : b.Sound) :
    (weigh standing i fuel j b).1.Sound := by
  have hswap (c : Branches) (hc : c.Sound) (i j : Nat) : (weigh.swap c i j).Sound := by
    refine hc.withAll _ ?_
    intro branch hb
    rcases List.mem_or_eq_of_mem_set hb with hb | rfl
    · rcases List.mem_or_eq_of_mem_set hb with hb | rfl
      · exact hc.fits branch hb
      · exact hc.branch j
    · exact hc.branch i
  induction fuel generalizing b i j with
  | zero => exact h
  | succ fuel ih =>
    unfold weigh
    split
    · exact h
    · split
      · exact h.erase i
      · split
        · exact h
        · exact ih _ _ (h.erase j)
      · split
        · rename_i c hjoin
          exact (h.join? j i c hjoin).1
        · exact ih _ _ (hswap b h i j)
      · split
        · rename_i c hjoin
          exact (h.join? j i c hjoin).1
        · exact ih _ _ h

theorem sound_thin (fuel i : Nat) (least : Option Nat) (h : b.Sound) :
    (thin fuel i least b).1.Sound := by
  induction fuel generalizing b i least with
  | zero => exact h
  | succ fuel ih =>
    rw [thin]
    split
    · exact h
    · split
      · exact ih _ _ (h.erase i)
      · exact ih _ _ (sound_weigh (b.standing i) i (i + 1) 0 h)

theorem sound_resume (n i : Nat) (found : Bool) (least : Option Nat) (h : b.Sound) :
    (resume n i found least b).1.Sound := by
  induction n generalizing b i found least with
  | zero => exact h
  | succ n ih =>
    rw [resume]
    split
    · rename_i next hstuck
      have hnext := (h.branch i).stuck next hstuck
      split
      · have hactive := h.modify i ({ · with status := .active }) fun _ hb => ⟨hb.top, nofun⟩
        exact ih _ _ _ (hactive.handleFault i next hnext)
      · exact ih _ _ _ (h.erase i)
    · exact ih _ _ _ h

theorem sound_condense (h : b.Sound) : (condense b).1.Sound :=
  sound_resume _ _ _ _ ((sound_thin _ _ _ h.settle).take _)

theorem steady_run (fuel v last : Nat) (r : Reading) (h : r.Steady) :
    (run fuel v last r).Steady := by
  induction fuel generalizing v last r with
  | zero => exact h
  | succ fuel ih =>
    rw [run]
    dsimp only
    split
    · have hcondense : Steady { r with branches := (condense r.branches).1 } :=
        ⟨sound_condense h.branches, h.remembered⟩
      split
      · exact hcondense
      · exact ih _ _ _ hcondense
    · split
      · have hadvance := steady_advance r h v
        have hgo (pos : Nat) : (if last < pos ∨ (0 < v ∧ pos = last) then
            run fuel (v + 1) pos (r.advance v) else run fuel v last (r.advance v)).Steady := by
          split
          · exact ih _ _ _ hadvance
          · exact ih _ _ _ hadvance
        exact hgo _
      · exact ih _ _ _ h

end Reading

theorem steady_start (s : Page) : Reading.Steady { branches :=
    { page := s, frames := #[{ state := .start, pos := 0 }], all := [{ top := 0 }] } } := by
  refine ⟨⟨?_, Nat.one_pos, ?_, nofun⟩, nofun⟩
  · intro i l hl
    cases i with
    | zero => contradiction
    | succ i => contradiction
  · intro branch hb
    rw [List.mem_singleton.mp hb]
    exact ⟨Nat.one_pos, nofun⟩

/-- All below the tree of a page is sound. -/
theorem Page.sound_tree (s : Page) : ∀ c ∈ s.tree.children, c.Sound := by
  have hrun := Reading.steady_run (1000 * (s.size + 10)) 0 0 _ (steady_start s)
  unfold Page.tree
  dsimp only
  generalize Reading.run _ _ _ _ = r at hrun
  intro c hc
  cases hfinished : r.branches.finished with
  | none =>
    rw [hfinished] at hc
    contradiction
  | some t =>
    rw [hfinished] at hc
    exact hrun.branches.finished t hfinished c hc

end Glean.Markup
