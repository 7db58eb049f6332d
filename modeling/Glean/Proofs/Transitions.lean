import Glean.Markup.Automaton

set_option autoImplicit false

/-!
# Transitions of the automaton

What a symbol that was read tells of the states around it. An element is read in one of three ways:
as a self-closing tag, as a start tag and an end, or with parts in between.
-/
namespace Glean.Markup

namespace State

/-- How many symbols of an element have been read, in a state that tells. -/
def ofElement : State → Nat
  | opened _ => 1
  | elementSelf _ => 1
  | filled _ => 2
  | elementEmpty _ => 2
  | elementFull _ => 3
  | _ => 0

def isSelf : State → Bool
  | elementSelf _ => true
  | _ => false

def endsElement : State → Bool
  | elementSelf _ => true
  | elementEmpty _ => true
  | elementFull _ => true
  | _ => false

/-- A symbol leads from one state to another, as a finished phrase or as a terminal. -/
def GoesTo (s : State) (sym : Sym) (next : State) : Prop :=
  s.goto sym = some next ∨ .shift next ∈ s.action sym ∨ .shiftOn next ∈ s.action sym

/-- A step within an element, if it is one: a tag begins it, or it goes on behind a start tag. -/
def ElementStep (s : State) (sym : Sym) (next : State) : Prop :=
  next.ofElement = 0 ∨
    (next.ofElement = 1 ∧ (sym = .startTag ∨ (sym = .selfClosingTag ∧ next.isSelf = true))) ∨
    (next.ofElement = s.ofElement + 1 ∧ 0 < s.ofElement ∧ s.isSelf = false)

end State

/-- What every action of a state before a terminal comes up to. -/
def Action.Suits (s : State) (t : Sym) : Action → Prop
  | .shift next => s.ElementStep t next ∧ t ≠ .stop ∧ t ≠ .error
  | .shiftOn next => s.ElementStep t next ∧ t ≠ .stop ∧ t ≠ .error
  | .reduce p n => if s.endsElement then p = .element ∧ n = s.ofElement else p ≠ .element
  | _ => True

/-- There is one reduction at most, which comes first, and nothing behind it but a shift that waits
for it. -/
inductive Actions : List Action → Prop
  | none : Actions []
  | shift (s : State) : Actions [.shift s]
  | shiftExtra : Actions [.shiftExtra]
  | accept : Actions [.accept]
  | recover : Actions [.recover]
  | reduce (sym : Sym) (n : Nat) : Actions [.reduce sym n]
  | shiftOn (sym : Sym) (n : Nat) (s : State) : Actions [.reduce sym n, .shiftOn s]

theorem actions_shiftTo (target : Option State) : Actions (shiftTo target) := by
  cases target with
  | none => exact .none
  | some s => exact .shift s

theorem actions_reduce (l : Level) (sym : Sym) (n : Nat) (t : Sym) :
    Actions (l.reduce sym n t) := by
  unfold Level.reduce
  split
  · exact .reduce sym n
  · exact .none

section

variable (s : State) (t : Sym)

theorem suits_topPart (single : State) (hs : s.ElementStep t single) (next : State)
    (h : topPart single t = some next) : (Action.shift next).Suits s t := by
  unfold topPart at h
  split at h <;> cases h
  · exact ⟨.inl rfl, by decide, by decide⟩
  · exact ⟨.inl rfl, by decide, by decide⟩
  · exact ⟨.inl rfl, by decide, by decide⟩
  · exact ⟨hs, by decide, by decide⟩
  · exact ⟨hs, by decide, by decide⟩

theorem suits_insidePart (single ending : State) (hs : s.ElementStep t single)
    (he : s.ElementStep t ending) (next : State) (h : insidePart single ending t = some next) :
    (Action.shift next).Suits s t := by
  unfold insidePart at h
  split at h <;> cases h
  · exact ⟨.inl rfl, by decide, by decide⟩
  · exact ⟨.inl rfl, by decide, by decide⟩
  · exact ⟨he, by decide, by decide⟩
  · exact ⟨hs, by decide, by decide⟩
  · exact ⟨hs, by decide, by decide⟩

theorem suits_shiftTo (target : Option State)
    (h : ∀ next, target = some next → (Action.shift next).Suits s t) :
    ∀ a ∈ shiftTo target, a.Suits s t := by
  cases target with
  | none => simp [shiftTo]
  | some next => simpa [shiftTo] using h next rfl

theorem suits_reduce (l : Level) (sym : Sym) (n : Nat)
    (h : (Action.reduce sym n).Suits s t) : ∀ a ∈ l.reduce sym n t, a.Suits s t := by
  unfold Level.reduce
  split
  · simpa using h
  · simp

end

theorem State.actions_actionAt (s : State) (t : Sym) : Actions (s.actionAt t) := by
  unfold actionAt
  split <;> first
    | exact actions_shiftTo _
    | exact actions_reduce ..
    | exact .none
    | exact .shift _
    | exact .accept
    | exact .reduce ..
    | exact .shiftOn ..
    | (split <;> first
        | exact .none
        | exact .recover
        | exact .shift _
        | exact .reduce ..
        | exact .shiftOn ..)

theorem State.actions_action (s : State) (t : Sym) : Actions (s.action t) := by
  unfold action
  split
  · exact actions_actionAt _ _
  · exact .shiftExtra
  · exact actions_actionAt _ _

theorem suits_repeat (s : State) (t : Sym) (target : Option State)
    (he : s.endsElement = false)
    (h : ∀ next, target = some next → (Action.shift next).Suits s t) :
    ∀ a ∈ (match target with
      | some next => [Action.reduce .parts 2, Action.shiftOn next]
      | none => []), a.Suits s t := by
  cases target with
  | none => simp
  | some next =>
    intro a ha
    rcases List.mem_cons.mp ha with rfl | ha
    · simp [Action.Suits, he]
    · rw [List.mem_singleton.mp ha]
      exact h next rfl

theorem State.suits_actionAt (s : State) (t : Sym) : ∀ a ∈ s.actionAt t, a.Suits s t := by
  unfold actionAt
  split <;> first
    | exact List.forall_mem_singleton.mpr ⟨.inl rfl, nofun, nofun⟩
    | exact List.forall_mem_nil _
    | exact List.forall_mem_singleton.mpr ⟨.inr (.inr ⟨rfl, Nat.succ_pos _, rfl⟩), nofun, nofun⟩
    | exact suits_shiftTo _ _ _ (suits_topPart _ _ _ (.inl rfl))
    | exact suits_shiftTo _ _ _ (suits_insidePart _ _ _ _ (.inl rfl) (.inl rfl))
    -- The first part of an element stands behind its start tag.
    | exact suits_shiftTo _ _ _ (suits_insidePart _ _ _ _
        (.inr (.inr ⟨rfl, Nat.succ_pos _, rfl⟩)) (.inl rfl))
    | exact suits_repeat _ _ _ rfl (suits_topPart _ _ _ (.inl rfl))
    | exact suits_repeat _ _ _ rfl (suits_insidePart _ _ _ _ (.inl rfl) (.inl rfl))
    | exact suits_reduce _ _ _ _ _ (by simp [Action.Suits, endsElement, ofElement])
    | simp [Action.Suits, endsElement, ElementStep, ofElement, isSelf]

theorem State.suits_action (s : State) (t : Sym) : ∀ a ∈ s.action t, a.Suits s t := by
  unfold action
  split
  · exact suits_actionAt _ _
  · simp [Action.Suits]
  · exact suits_actionAt _ _

theorem State.elementStep_partGoto (s : State) (l : Level) (part : State) (sym : Sym) (next : State)
    (hs : s.ElementStep sym part) (h : partGoto l part sym = some next) :
    s.ElementStep sym next := by
  unfold partGoto at h
  split at h <;> cases h <;> first
    | exact hs
    | exact .inl rfl
    | exact .inr (.inl ⟨rfl, .inl rfl⟩)
    | exact .inr (.inl ⟨rfl, .inr ⟨rfl, rfl⟩⟩)

theorem State.elementStep_goto (s : State) (sym : Sym) (next : State) (h : s.goto sym = some next) :
    s.ElementStep sym next := by
  unfold goto at h
  split at h <;> first
    | contradiction
    | (cases h; exact .inl rfl)
    | (cases h; exact .inr (.inr ⟨rfl, Nat.succ_pos _, rfl⟩))
    | exact elementStep_partGoto _ _ _ _ _ (.inl rfl) h
    | exact elementStep_partGoto _ _ _ _ _ (.inr (.inr ⟨rfl, Nat.succ_pos _, rfl⟩)) h

theorem State.goto_error (s : State) : s.goto .error = none := by
  cases s <;> first
    | rfl
    | (rename_i l; cases l <;> rfl)

theorem State.GoesTo.elementStep {s next : State} {sym : Sym} (h : s.GoesTo sym next) :
    s.ElementStep sym next := by
  rcases h with h | h | h
  · exact elementStep_goto s sym next h
  · exact (suits_action s sym _ h).1
  · exact (suits_action s sym _ h).1

theorem State.not_goesTo_error (s next : State) : ¬ s.GoesTo .error next := by
  rintro (h | h | h)
  · rw [goto_error] at h
    contradiction
  · exact (suits_action s .error _ h).2.2 rfl
  · exact (suits_action s .error _ h).2.2 rfl

/-- A terminal that leads on to another state was shifted. -/
theorem State.goesTo_of_after (s next : State) (t : Sym) (h : s.after t = some next)
    (hne : next ≠ s) : s.GoesTo t next := by
  unfold after at h
  split at h
  · rename_i target hlast
    cases h
    exact .inr (.inl (List.mem_of_getLast? hlast))
  · rename_i target hlast
    cases h
    exact .inr (.inr (List.mem_of_getLast? hlast))
  · cases h
    contradiction
  · contradiction

end Glean.Markup
