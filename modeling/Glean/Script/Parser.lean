import Glean.Script.Cursor

set_option autoImplicit false

/-!
# Parsers

A parser moves a cursor forward, or fails. That it only moves forward is part of the type, so it
holds of all that is built from the parsers here.
-/
namespace Glean.Script

structure Parser (α : Type) where
  run : Cursor → Option (α × Cursor)
  reaches : ∀ c a d, run c = some (a, d) → c.Reaches d

namespace Parser

variable {α β σ : Type}

def pure (a : α) : Parser α where
  run c := some (a, c)
  reaches c b d h := by
    simp only [Option.some.injEq, Prod.mk.injEq] at h
    exact h.2 ▸ .refl c

def bind (p : Parser α) (f : α → Parser β) : Parser β where
  run c :=
    match p.run c with
    | some (a, d) => (f a).run d
    | none => none
  reaches c b e h := by
    split at h
    next a d hp => exact (p.reaches c a d hp).trans ((f a).reaches d b e h)
    next => contradiction

instance : Monad Parser where
  pure := pure
  bind := bind

def fail : Parser α where
  run _ := none
  reaches _ _ _ h := by contradiction

instance : Inhabited (Parser α) := ⟨fail⟩

def orElse (p : Parser α) (q : Unit → Parser α) : Parser α where
  run c :=
    match p.run c with
    | some r => some r
    | none => (q ()).run c
  reaches c a d h := by
    split at h
    next r hp => exact p.reaches c a d (hp.trans h)
    next => exact (q ()).reaches c a d h

instance : OrElse (Parser α) := ⟨orElse⟩

def require (b : Bool) : Parser Unit := if b then pure () else fail

def cursor : Parser Cursor where
  run c := some (c, c)
  reaches c a d h := by
    simp only [Option.some.injEq, Prod.mk.injEq] at h
    exact h.2 ▸ .refl c

def dialect : Parser Dialect := do return (← cursor).dialect

def rest : Parser (List Char) := do return (← cursor).rest

def pass (n : Nat) : Parser Unit where
  run c := some ((), c.pass n)
  reaches c a d h := by
    simp only [Option.some.injEq, Prod.mk.injEq] at h
    exact h.2 ▸ .pass c n

def passLiteral (m : Measure) : Parser Unit where
  run c :=
    let n := m.length c.dialect c.rest
    if 0 < n then some ((), c.record n) else none
  reaches c a d h := by
    dsimp only at h
    split at h
    next hn =>
      simp only [Option.some.injEq, Prod.mk.injEq] at h
      exact h.2 ▸ .record c _ (m.isLiteral c.dialect c.rest hn)
    next => contradiction

def notice (ahead : Option Ahead) : Parser Unit where
  run c := some ((), { c with ahead })
  reaches c a d h := by
    simp only [Option.some.injEq, Prod.mk.injEq] at h
    exact h.2 ▸ .notice c ahead

def iterateFrom (step : σ → Parser (σ × Bool)) : Nat → σ → Cursor → Option (σ × Cursor)
  | 0, _, _ => none
  | n + 1, s, c =>
    match (step s).run c with
    | some ((t, true), d) => iterateFrom step n t d
    | some ((t, false), d) => some (t, d)
    | none => none

theorem iterateFrom_reaches (step : σ → Parser (σ × Bool)) (n : Nat) (s : σ) (c : Cursor)
    (t : σ) (d : Cursor) (h : iterateFrom step n s c = some (t, d)) : c.Reaches d := by
  induction n generalizing s c with
  | zero => contradiction
  | succ n ih =>
    unfold iterateFrom at h
    split at h
    next u e hs => exact ((step s).reaches c _ e hs).trans (ih u e h)
    next u e hs =>
      simp only [Option.some.injEq, Prod.mk.injEq] at h
      exact h.2 ▸ (step s).reaches c _ e hs
    next => contradiction

/-- Does a step as long as it asks for another one. Steps that ask for another one pass over
something, so there are no more of them than characters. -/
def iterate (step : σ → Parser (σ × Bool)) (s : σ) : Parser σ where
  run c := iterateFrom step (c.rest.length + 2) s c
  reaches c t d h := iterateFrom_reaches step _ s c t d h

def many (p : Parser Unit) : Parser Unit :=
  iterate (fun _ => (do p; return ((), true)) <|> return ((), false)) ()

def tries (p : Parser Unit) : Parser Bool := (do p; return true) <|> return false

def optional (p : Parser Unit) : Parser Unit := p <|> return ()

def peek (p : Parser α) : Parser α where
  run c :=
    match p.run c with
    | some (a, _) => some (a, c)
    | none => none
  reaches c a d h := by
    split at h
    next =>
      simp only [Option.some.injEq, Prod.mk.injEq] at h
      exact h.2 ▸ .refl c
    next => contradiction

end Parser

end Glean.Script
