import Glean.Markup.Recovery
import Glean.Proofs.SoundReductions

set_option autoImplicit false

/-!
# Sound recovery

Whatever is done behind an error keeps the branches of a reading sound.
-/
namespace Glean.Markup

namespace Branches

variable {b : Branches}

theorem eraseDups_of_forall_eq {α : Type} [BEq α] [LawfulBEq α] (xs : List α) (a : α)
    (h : ∀ x ∈ xs.eraseDups, x = a) : xs.eraseDups = [] ∨ xs.eraseDups = [a] := by
  cases xs with
  | nil => exact .inl rfl
  | cons x xs =>
    obtain rfl := h x (List.mem_eraseDups.mpr List.mem_cons_self)
    right
    rw [List.eraseDups_cons, List.filter_eq_nil_iff.mpr]
    · rfl
    · intro y hy
      rw [h y (List.mem_eraseDups.mpr (List.mem_cons_of_mem x hy))]
      simp

/-- In a state that ends an element there is one reduction at most, and in all others none of an
element. -/
theorem reductionsBefore_cases (s : State) (terminals : List Sym) :
    (∀ r ∈ (reductionsBefore s terminals).1, r.1 ≠ .element) ∨
      (s.endsElement = true ∧ ((reductionsBefore s terminals).1 = [] ∨
        (reductionsBefore s terminals).1 = [(.element, s.ofElement)])) := by
  have hsuits : ∀ sym n, (sym, n) ∈ (reductionsBefore s terminals).1 →
      (Action.reduce sym n).Suits s .stop := by
    intro sym n h
    obtain ⟨a, ha, heq⟩ := List.mem_filterMap.mp (List.mem_eraseDups.mp h)
    obtain ⟨t, -, ha⟩ := List.mem_flatMap.mp ha
    have hsuits := s.suits_action t a ha
    split at heq
    · cases heq
      exact hsuits
    · contradiction
  cases hends : s.endsElement with
  | false =>
    left
    rintro ⟨sym, n⟩ hr
    have hsuits := hsuits sym n hr
    rwa [Action.Suits, hends] at hsuits
  | true =>
    right
    refine ⟨rfl, eraseDups_of_forall_eq _ _ ?_⟩
    rintro ⟨sym, n⟩ hr
    have hsuits := hsuits sym n hr
    rw [Action.Suits, hends] at hsuits
    obtain ⟨rfl, rfl⟩ := hsuits
    rfl

theorem Sound.reduceEach (h : b.Sound) (v : Nat) (terminals : List Sym) :
    ((reductionsBefore (b.top v).state terminals).1.foldl
      (fun acc r => acc.1.reduce v r.1 r.2) (b, none)).1.Sound := by
  rcases reductionsBefore_cases (b.top v).state terminals with hother | ⟨hends, hnil | hone⟩
  · have hfold (rs : List (Sym × Nat)) (acc : Branches × Option Nat) (hacc : acc.1.Sound)
        (hrs : ∀ r ∈ rs, r.1 ≠ .element) :
        (rs.foldl (fun acc r => acc.1.reduce v r.1 r.2) acc).1.Sound := by
      induction rs generalizing acc with
      | nil => exact hacc
      | cons r rs ih =>
        have hr := hrs r List.mem_cons_self
        exact ih _ (hacc.reduce v r.1 r.2 fun he => absurd he hr)
          fun q hq => hrs q (List.mem_cons_of_mem r hq)
    exact hfold _ _ h hother
  · rw [hnil]
    exact h
  · rw [hone]
    exact h.reduce v .element _ fun _ => ⟨hends, rfl⟩

theorem Sound.reduceAllFrom (next : Option Sym) (start old fuel round v : Nat) (can : Bool)
    (h : b.Sound) : (reduceAllFrom next start old fuel round v can b).1.Sound := by
  induction fuel generalizing b round v can with
  | zero => exact h
  | succ fuel ih =>
    rw [Branches.reduceAllFrom]
    dsimp only
    split
    · exact h
    · split
      · rename_i c hjoin
        exact ih _ _ _ (h.joinInto _ _ c hjoin).1
      · have hreduce := h.reduceEach v (standsFor next)
        split
        · exact ih _ _ _ hreduce
        · split
          · split
            · exact ih _ _ _ (hreduce.replace _ _)
            · split
              · exact ih _ _ _ (hreduce.erase _)
              · exact ih _ _ _ hreduce
          · apply ih
            split
            · exact hreduce.erase _
            · exact hreduce

theorem Sound.reduceAll (h : b.Sound) (v : Nat) (next : Option Sym) :
    (b.reduceAll v next).1.Sound := reduceAllFrom _ _ _ _ _ _ _ h

theorem Sound.supply (h : b.Sound) (v i : Nat) (next : Option Sym) (t : Sym) (after : State)
    (hafter : (b.top v).state.after t = some after) (hne : after ≠ (b.top v).state) :
    (((b.add { b.branch v with passages := [] }).push b.size (.missing t i) after).reduceAll
      b.size next).1.Sound := by
  have hv := h.branch v
  let old : Branch := { b.branch v with passages := [] }
  have hadd : (b.add old).Sound := h.add old ⟨hv.top, hv.stuck⟩
  have htop : ((b.add old).top b.size).state = (b.top v).state := by
    have hbranch : (b.add old).branch b.size = old := by
      change (b.all ++ [old]).getD b.all.length default = old
      simp
    change stateAt b.frames ((b.add old).branch b.size).top = _
    rw [hbranch]
    rfl
  have hleads : (Tree.missing t i).LeadsTo ((b.add old).top b.size).state after := by
    rw [htop]
    exact .inr (.inr (.inr ⟨rfl, State.goesTo_of_after _ _ t hafter hne⟩))
  exact (hadd.push b.size _ after (Tree.sound_missing t i) hleads).reduceAll b.size next

theorem Sound.supplyMissing? (h : b.Sound) (v i : Nat) (next : Sym) (ts : List Sym) :
    (b.supplyMissing? v i next ts).1.Sound := by
  induction ts generalizing b with
  | nil => exact h
  | cons t ts ih =>
    rw [Branches.supplyMissing?]
    dsimp only
    split
    · exact ih h
    · rename_i after hafter
      by_cases hne : after = (b.top v).state
      · rw [if_pos (.inl hne)]
        exact ih h
      · have hsupply := h.supply v i (some next) t after hafter hne
        -- Whether the token is of use does not matter here.
        split
        all_goals
          split
          · exact ih h
          · split
            · rename_i c heq
              rw [heq] at hsupply
              exact hsupply
            · rename_i c heq
              rw [heq] at hsupply
              exact ih hsupply

theorem Sound.giveUp (h : b.Sound) (i : Nat) (next : Sym) (supplied : Bool) (vs : List Nat) :
    (giveUp i next supplied vs b).Sound := by
  induction vs generalizing b supplied with
  | nil => exact h
  | cons v vs ih =>
    rw [Branches.giveUp]
    apply ih
    apply Sound.pushFault
    cases supplied with
    | true => exact h
    | false => exact h.supplyMissing? v i next _

/-! ### Going back behind an error -/

theorem size_modify (v : Nat) (f : Branch → Branch) : (b.modify v f).size = b.size :=
  List.length_modify ..

/-- An error is on top of the state that it leads to, as it stands outside the grammar. -/
theorem Sound.popFault (h : b.Sound) (v : Nat) (hv : v < b.size) (goal : State)
    (hgoal : (b.top v).state = goal) (hne : goal ≠ .fault) :
    (b.popFault v).1.Sound ∧ (b.popFault v).1.size = b.size ∧
      (goal = .start ∨ ((b.popFault v).1.top v).state = goal) ∧
      ∀ t, (b.popFault v).2 = some t → t.Sound := by
  unfold Branches.popFault
  dsimp only
  split
  · rename_i l hfind
    have hl := h.links v l (List.mem_of_find?_eq_some hfind)
    refine ⟨h.modify v _ fun _ hb => ⟨hl.below, hb.stuck⟩, size_modify v _, ?_, hl.sound⟩
    have herror : l.tree.any (·.sym = .error) = true :=
      List.find?_some (p := fun l : Link => l.tree.any (·.sym = .error)) hfind
    rw [Option.any_eq_true] at herror
    obtain ⟨t, ht, hsym⟩ := herror
    have hsym : t.sym = .error := of_decide_eq_true hsym
    have hbelow : ((b.modify v ({ · with top := l.below })).top v).state =
        stateAt b.frames l.below := by
      change stateAt b.frames ((b.modify v _).branch v).top = _
      rw [branch_modify v _ hv]
    rw [hgoal] at hl
    rcases hl.leads t ht with hs | hs | ⟨-, hs⟩ | ⟨-, hgoes⟩
    · exact absurd hs hne
    · exact .inl hs
    · exact .inr (hbelow.trans hs)
    · rw [hsym] at hgoes
      exact absurd hgoes (State.not_goesTo_error _ _)
  · exact ⟨h, rfl, .inr hgoal, nofun⟩

theorem Sound.pushError (h : b.Sound) (v : Nat) (hv : v < b.size) (goal : State)
    (hs : goal = .start ∨ (b.top v).state = goal) (children : List Tree)
    (hchildren : ∀ t ∈ children, t.Sound) :
    let c := if children.isEmpty then b
      else b.push v { Tree.phrase b.page .error children 0 with extra := true } goal
    c.Sound ∧ c.size = b.size ∧ (goal = .start ∨ (c.top v).state = goal) := by
  dsimp only
  split
  · exact ⟨h, rfl, hs⟩
  · have herror := Tree.sound_error b.page .error children 0 hchildren nofun
    refine ⟨h.push v _ goal herror.asExtra ?_, size_push v _ goal, .inr (state_push v _ goal hv)⟩
    exact .inr (hs.imp_right fun hs => .inl ⟨rfl, hs⟩)

theorem sound_headD (ways : List (List Tree)) (h : ∀ way ∈ ways, ∀ t ∈ way, t.Sound) :
    ∀ t ∈ ways.headD [], t.Sound := by
  cases ways with
  | nil => nofun
  | cons way ways => exact h way List.mem_cons_self

theorem Sound.takeIntoFault (goal : State) (hne : goal ≠ .fault) (ps : List Popped) (found : Bool)
    (h : b.Sound) (hps : ∀ p ∈ ps, p.branch < b.size)
    (hways : ∀ p ∈ ps, ∀ way ∈ p.ways, ∀ t ∈ way, t.Sound) :
    (takeIntoFault goal b found ps).1.Sound := by
  induction ps generalizing b found with
  | nil => exact h
  | cons p ps ih =>
    have hp := hps p List.mem_cons_self
    have hrest : ∀ q ∈ ps, q.branch < b.size := fun q hq => hps q (List.mem_cons_of_mem p hq)
    have hrestWays : ∀ q ∈ ps, ∀ way ∈ q.ways, ∀ t ∈ way, t.Sound :=
      fun q hq => hways q (List.mem_cons_of_mem p hq)
    rw [Branches.takeIntoFault]
    split
    · refine ih found (h.halt _) ?_ hrestWays
      rwa [Branches.halt, size_modify]
    · rename_i hgoal
      have hgoal : (b.top p.branch).state = goal := Classical.not_not.mp hgoal
      obtain ⟨hpop, hsize, hstate, hold⟩ := h.popFault p.branch hp goal hgoal hne
      generalize b.popFault p.branch = popped at hpop hsize hstate hold ⊢
      obtain ⟨c, old⟩ := popped
      dsimp only at hpop hsize hstate hold ⊢
      have hall : ∀ t ∈ (old.map (·.children)).getD [] ++ p.ways.headD [], t.Sound := by
        intro t ht
        rcases List.mem_append.mp ht with ht | ht
        · cases old with
          | none => contradiction
          | some o => exact (hold o rfl).children t ht
        · exact sound_headD p.ways (hways p List.mem_cons_self) t ht
      obtain ⟨herror, hsizeError, hstateError⟩ := hpop.pushError p.branch (by omega) goal hstate
        (cutExtras ((old.map (·.children)).getD [] ++ p.ways.headD [])).1
        fun t ht => hall t (mem_of_mem_cutExtras _ t (.inl ht))
      obtain ⟨hextras, hsizeExtras⟩ := herror.pushAll p.branch
        (cutExtras ((old.map (·.children)).getD [] ++ p.ways.headD [])).2 goal (by omega)
        hstateError fun t ht =>
          ⟨hall t (mem_of_mem_cutExtras _ t (.inr ht)), extra_of_mem_cutExtras _ t ht⟩
      refine ih true hextras ?_ hrestWays
      have hsizes := hsizeExtras.trans (hsizeError.trans hsize)
      exact fun q hq => Nat.lt_of_lt_of_eq (hrest q hq) hsizes.symm

theorem Takes.lt_size {c : Branches} {P : List Tree → Prop} {ps : List Popped}
    (h : b.Takes c P ps) : ∀ p ∈ ps, p.branch < c.size := by
  intro p hp
  have hmem : p.branch ∈ List.range' b.size ps.length := by
    rw [← h.numbers]
    exact List.mem_map_of_mem hp
  have hlt := (List.mem_range'_1.mp hmem).2
  rwa [h.size]

theorem Sound.goBackTo (h : b.Sound) (v depth : Nat) (goal : State) (hne : goal ≠ .fault) :
    (b.goBackTo v depth goal).1.Sound := by
  have hpop := h.pop v depth
  exact hpop.sound.takeIntoFault goal hne _ false hpop.lt_size
    fun p hp way hway => (hpop.ways p hp way hway).1

theorem Sound.goBack (h : b.Sound) (next : Sym) (v before pos cost : Nat) (hasProgress : Bool)
    (passages : List Passage) :
    (goBack next v before pos cost hasProgress passages b).1.Sound := by
  induction passages generalizing b with
  | nil => exact h
  | cons p ps ih =>
    rw [Branches.goBack]
    split
    · exact ih h
    · rename_i hother
      have hne : p.state ≠ .fault := by
        intro heq
        rw [heq] at hother
        exact hother rfl
      split
      · exact h
      · split
        · exact ih h
        · have hback (depth : Nat) := h.goBackTo v depth p.state hne
          split
          · rename_i c heq
            rw [← congrArg Prod.fst heq]
            exact hback _
          · rename_i c heq
            have hc := hback (if hasProgress then p.depth + 1 else p.depth)
            rw [congrArg Prod.fst heq] at hc
            exact ih hc

theorem Sound.passOver (h : b.Sound) (v : Nat) (next : Tree) (hnext : next.Sound) :
    (b.passOver v next).Sound := by
  have hnext : Tree.Sound (if next.sym = .comment then { next with extra := true } else next) := by
    split
    · exact hnext.asExtra
    · exact hnext
  have hpassed (page : Page) (pos : Nat) (front : List Tree) (hfront : ∀ t ∈ front, t.Sound)
      (t : Tree) (ht : t.Sound) : (Tree.phrase page .passed (front ++ [t]) pos).Sound := by
    refine Tree.sound_error _ _ _ _ ?_ nofun
    intro c hc
    rcases List.mem_append.mp hc with hc | hc
    · exact hfront c hc
    · rw [List.mem_singleton.mp hc]
      exact ht
  have hput (x : Branches × Tree) (hx : x.1.Sound ∧ x.2.Sound) (tags : Option (List Tag)) :
      (if tags.isSome = true then (x.1.push v x.2 .fault).modify v ({ · with tags })
        else x.1.push v x.2 .fault).Sound := by
    have hpush := hx.1.push v x.2 .fault hx.2 (.inl rfl)
    split
    · exact hpush.modify v _ fun _ hb => ⟨hb.top, hb.stuck⟩
    · exact hpush
  have hone := hpassed b.page (b.top v).pos [] (by simp) _ hnext
  unfold Branches.passOver
  by_cases hp : b.progress v = 0
  · simp only [if_pos hp]
    exact hput (b, _) ⟨h, hone⟩ _
  · simp only [if_neg hp]
    have hpop := h.pop v 1
    generalize b.pop v 1 = popped at hpop ⊢
    obtain ⟨c, ps⟩ := popped
    cases ps with
    | nil => exact hput (c, _) ⟨hpop.sound, hone⟩ _
    | cons p ps =>
      refine hput (_, _) ⟨(hpop.sound.take _).replace p.branch v, hpassed _ _ _ ?_ _ hone⟩ _
      exact sound_headD _ fun way hway => (hpop.ways p List.mem_cons_self way hway).1

theorem Sound.recover (h : b.Sound) (v : Nat) (next : Ahead) (hnext : next.tree.IsToken) :
    (b.recover v next).Sound := by
  unfold Branches.recover
  dsimp only
  have hback := h.settle.goBack next.tree.sym v b.settle.size (b.settle.top v).pos
    (b.settle.cost v) (0 < b.settle.progress v)
    (if next.tree.sym = .error then [] else (b.settle.branch v).passages)
  generalize Branches.goBack _ _ _ _ _ _ _ _ = back at hback ⊢
  obtain ⟨c, found⟩ := back
  have hactive : Sound { c with all := c.all.take b.settle.size ++
      (c.all.drop b.settle.size).filter fun (w : Branch) => w.status.isActive } := by
    refine hback.withAll _ ?_
    intro branch hb
    rcases List.mem_append.mp hb with hb | hb
    · exact hback.fits branch (List.mem_of_mem_take hb)
    · exact hback.fits branch (List.mem_of_mem_drop (List.mem_filter.mp hb).1)
  split
  · have hnone := Tree.sound_error c.page .error [] (b.settle.top v).pos (by simp) nofun
    exact (hactive.push v _ .start hnone (.inr (.inl rfl))).accept v _ hnext.sound
  · split
    · exact hactive.halt v
    · split
      · exact hactive.halt v
      · exact hactive.passOver v _ hnext.sound

theorem Sound.handleFault (h : b.Sound) (v : Nat) (next : Ahead) (hnext : next.tree.IsToken) :
    (b.handleFault v next).Sound := by
  have hjoin (vs : List Nat) (before : Nat) (c : Branches) (hc : c.Sound) :
      (vs.foldl (fun b _ => (b.join? v before).getD b) c).Sound := by
    induction vs generalizing c with
    | nil => exact hc
    | cons w vs ih =>
      rw [List.foldl_cons]
      cases hj : c.join? v before with
      | none => exact ih c hc
      | some d => exact ih d (hc.join? v before d hj).1
  unfold Branches.handleFault
  apply Sound.recover _ v next hnext
  apply Sound.modify
  · exact hjoin _ _ _ ((h.reduceAll v none).giveUp _ _ _ _)
  · exact fun _ hb => ⟨hb.top, hb.stuck⟩

end Branches

end Glean.Markup
