import Glean.Workers
import Mathlib.Data.List.FinRange
import Mathlib.Data.List.Basic

set_option autoImplicit false

/-!
# Schedules

Whatever the order in which workers take files and put outcomes in their places, a schedule that
comes to its end has taken every file once and found what is found without workers. No schedule gets
stuck on the way.
-/
namespace Glean.Workers

theorem put_self {α β : Type} [DecidableEq α] (f : α → β) (a : α) (b : β) : put f a b a = b :=
  if_pos rfl

theorem put_ne {α β : Type} [DecidableEq α] (f : α → β) (a : α) (b : β) (x : α) (h : x ≠ a) :
    put f a b x = f x :=
  if_neg h

namespace State

variable {workers files : Nat} (outcome : Fin files → Outcome)

theorem take_eq_some_iff (s u : State workers files) (w : Fin workers) (i : Fin files) :
    s.move? outcome (.take w i) = some u ↔
      (s.busy w = none ∧ i ∈ s.untaken) ∧
        u = { s with untaken := s.untaken.erase i, busy := put s.busy w (some i) } := by
  rw [move?]
  split
  · rename_i h
    rw [Option.some.injEq, eq_comm]
    exact ⟨fun hu => ⟨h, hu⟩, fun hu => hu.2⟩
  · rename_i h
    exact ⟨nofun, fun hu => absurd hu.1 h⟩

theorem store_eq_some_iff (s u : State workers files) (w : Fin workers) :
    s.move? outcome (.store w) = some u ↔
      ∃ i, s.busy w = some i ∧
        u = { s with busy := put s.busy w none, places := put s.places i (some (outcome i)) } := by
  rw [move?]
  split
  · rename_i i h
    rw [Option.some.injEq, eq_comm]
    constructor
    · intro hu
      exact ⟨i, h, hu⟩
    · rintro ⟨j, hj, hu⟩
      obtain rfl : i = j := Option.some.inj (h.symm.trans hj)
      exact hu
  · rename_i h
    refine ⟨nofun, ?_⟩
    rintro ⟨i, hi, -⟩
    rw [h] at hi
    contradiction

theorem run?_cons (s : State workers files) (m : Move workers files)
    (schedule : List (Move workers files)) :
    s.run? outcome (m :: schedule) = (s.move? outcome m).bind (·.run? outcome schedule) := by
  rw [run?, List.foldlM_cons]
  rfl

theorem run?_append (s : State workers files) (first second : List (Move workers files)) :
    s.run? outcome (first ++ second) =
      (s.run? outcome first).bind (·.run? outcome second) := by
  rw [run?, List.foldlM_append]
  rfl

/-- Every file waits, or is with a worker, or has its own outcome in its place. -/
def Accounts (s : State workers files) : Prop :=
  ∀ i, i ∈ s.untaken ∨ (∃ w, s.busy w = some i) ∨ s.places i = some (outcome i)

theorem accounts_start : (start : State workers files).Accounts outcome :=
  fun i => .inl (List.mem_finRange i)

theorem Accounts.take {s : State workers files} (h : s.Accounts outcome) (w : Fin workers)
    (i : Fin files) (hw : s.busy w = none) :
    Accounts outcome { s with untaken := s.untaken.erase i, busy := put s.busy w (some i) } := by
  intro j
  by_cases hj : j = i
  · subst j
    exact .inr (.inl ⟨w, put_self _ _ _⟩)
  · rcases h j with hwait | ⟨v, hv⟩ | hdone
    · exact .inl ((List.mem_erase_of_ne hj).mpr hwait)
    · refine .inr (.inl ⟨v, ?_⟩)
      have hne : v ≠ w := by
        rintro rfl
        rw [hw] at hv
        contradiction
      exact (put_ne _ _ _ _ hne).trans hv
    · exact .inr (.inr hdone)

theorem Accounts.store {s : State workers files} (h : s.Accounts outcome) (w : Fin workers)
    (i : Fin files) (hw : s.busy w = some i) :
    Accounts outcome
      { s with busy := put s.busy w none, places := put s.places i (some (outcome i)) } := by
  intro j
  by_cases hj : j = i
  · subst j
    exact .inr (.inr (put_self _ _ _))
  · rcases h j with hwait | ⟨v, hv⟩ | hdone
    · exact .inl hwait
    · refine .inr (.inl ⟨v, ?_⟩)
      have hne : v ≠ w := by
        rintro rfl
        exact hj (Option.some.inj (hv.symm.trans hw))
      exact (put_ne _ _ _ _ hne).trans hv
    · exact .inr (.inr ((put_ne _ _ _ _ hj).trans hdone))

theorem Accounts.move {s u : State workers files} (h : s.Accounts outcome)
    (m : Move workers files) (hm : s.move? outcome m = some u) : u.Accounts outcome := by
  cases m with
  | take w i =>
    obtain ⟨⟨hw, -⟩, rfl⟩ := (take_eq_some_iff outcome s u w i).mp hm
    exact h.take outcome w i hw
  | store w =>
    obtain ⟨i, hi, rfl⟩ := (store_eq_some_iff outcome s u w).mp hm
    exact h.store outcome w i hi

theorem Accounts.run {s u : State workers files} (h : s.Accounts outcome)
    (schedule : List (Move workers files)) (hr : s.run? outcome schedule = some u) :
    u.Accounts outcome := by
  induction schedule generalizing s with
  | nil => exact Option.some.inj hr ▸ h
  | cons m schedule ih =>
    rw [run?_cons] at hr
    obtain ⟨v, hm, hrest⟩ := Option.bind_eq_some_iff.mp hr
    exact ih (h.move outcome m hm) hrest

theorem Accounts.outcomes?_eq {s : State workers files} (h : s.Accounts outcome) (ho : s.IsOver) :
    s.outcomes? = some ((List.finRange files).map outcome) := by
  have hplaces : s.places = fun i => some (outcome i) := by
    funext i
    rcases h i with hwait | ⟨w, hw⟩ | hdone
    · rw [ho.1] at hwait
      contradiction
    · rw [ho.2 w] at hw
      contradiction
    · exact hdone
  rw [outcomes?, hplaces]
  exact List.mapM_pure

/-- The files that were taken and those that wait are all the files, each of them once. -/
theorem perm_taken (s u : State workers files) (schedule : List (Move workers files))
    (hr : s.run? outcome schedule = some u) :
    (schedule.filterMap Move.taken? ++ u.untaken).Perm s.untaken := by
  induction schedule generalizing s with
  | nil =>
    obtain rfl := Option.some.inj hr
    exact .refl _
  | cons m schedule ih =>
    rw [run?_cons] at hr
    obtain ⟨v, hm, hrest⟩ := Option.bind_eq_some_iff.mp hr
    have hlater := ih v hrest
    cases m with
    | take w i =>
      obtain ⟨⟨-, hi⟩, rfl⟩ := (take_eq_some_iff outcome s v w i).mp hm
      exact (hlater.cons i).trans (List.perm_cons_erase hi).symm
    | store w =>
      obtain ⟨i, -, rfl⟩ := (store_eq_some_iff outcome s v w).mp hm
      exact hlater

/-- The workers of a list can put away what they are busy with. -/
theorem exists_idle (s : State workers files) (ws : List (Fin workers)) :
    ∃ schedule u, s.run? outcome schedule = some u ∧ u.untaken = s.untaken ∧
      (∀ w, s.busy w = none → u.busy w = none) ∧ ∀ w ∈ ws, u.busy w = none := by
  induction ws generalizing s with
  | nil => exact ⟨[], s, rfl, rfl, fun _ h => h, nofun⟩
  | cons w ws ih =>
    cases hw : s.busy w with
    | none =>
      obtain ⟨schedule, u, hr, hwait, hkeep, hidle⟩ := ih s
      refine ⟨schedule, u, hr, hwait, hkeep, ?_⟩
      intro v hv
      rcases List.mem_cons.mp hv with rfl | hv
      · exact hkeep v hw
      · exact hidle v hv
    | some i =>
      have hm := (store_eq_some_iff outcome s _ w).mpr ⟨i, hw, rfl⟩
      obtain ⟨schedule, u, hr, hwait, hkeep, hidle⟩ :=
        ih { s with busy := put s.busy w none, places := put s.places i (some (outcome i)) }
      have hstored : ∀ v, s.busy v = none ∨ v = w → u.busy v = none := by
        intro v hv
        apply hkeep
        by_cases he : v = w
        · subst v
          exact put_self _ _ _
        · exact (put_ne _ _ _ _ he).trans (hv.resolve_right he)
      refine ⟨.store w :: schedule, u, ?_, hwait, fun v hv => hstored v (.inl hv), ?_⟩
      · rw [run?_cons, hm]
        exact hr
      · intro v hv
        rcases List.mem_cons.mp hv with rfl | hv
        · exact hstored v (.inr rfl)
        · exact hidle v hv

/-- One worker alone can do what is left once nobody is busy. -/
theorem exists_over_of_idle (w : Fin workers) (s : State workers files)
    (hidle : ∀ v, s.busy v = none) :
    ∃ schedule u, s.run? outcome schedule = some u ∧ u.IsOver := by
  induction hn : s.untaken generalizing s with
  | nil => exact ⟨[], s, rfl, hn, hidle⟩
  | cons i waiting ih =>
    have hi : i ∈ s.untaken := by
      rw [hn]
      exact List.mem_cons_self
    have htake := (take_eq_some_iff outcome s _ w i).mpr ⟨⟨hidle w, hi⟩, rfl⟩
    have hstore := (store_eq_some_iff outcome
      { s with untaken := s.untaken.erase i, busy := put s.busy w (some i) } _ w).mpr
      ⟨i, put_self _ _ _, rfl⟩
    have hagain : ∀ v, put (put s.busy w (some i)) w none v = none := by
      intro v
      by_cases hv : v = w
      · subst v
        exact put_self _ _ _
      · rw [put_ne _ _ _ _ hv, put_ne _ _ _ _ hv, hidle v]
    have hrest : s.untaken.erase i = waiting := by
      rw [hn, List.erase_cons_head]
    obtain ⟨schedule, u, hr, hover⟩ := ih
      ⟨s.untaken.erase i, put (put s.busy w (some i)) w none,
        put s.places i (some (outcome i))⟩ hagain hrest
    refine ⟨.take w i :: .store w :: schedule, u, ?_, hover⟩
    rw [run?_cons, htake, Option.bind_some, run?_cons, hstore]
    exact hr

theorem exists_over (s : State workers files) (h : 0 < workers) :
    ∃ schedule u, s.run? outcome schedule = some u ∧ u.IsOver := by
  obtain ⟨first, u, hfirst, -, -, hidle⟩ := exists_idle outcome s (List.finRange workers)
  obtain ⟨second, v, hsecond, hover⟩ :=
    exists_over_of_idle outcome ⟨0, h⟩ u fun w => hidle w (List.mem_finRange w)
  refine ⟨first ++ second, v, ?_, hover⟩
  rw [run?_append, hfirst]
  exact hsecond

end State

theorem exists_serve (jobs : Option Nat) : ∃ workers, Serve jobs workers := by
  cases jobs with
  | none => exact ⟨1, by omega, nofun⟩
  | some n =>
    refine ⟨max n 1, by omega, ?_⟩
    rintro m hm hpos
    obtain rfl := Option.some.inj hm
    omega

end Glean.Workers

namespace Glean.Search

open Workers

variable (s : Search) (t : FileTree) (paths : List String)

theorem map_visitAt : (List.finRange paths.length).map (s.visitAt t paths) =
    paths.map (s.visit t) := by
  calc
    (List.finRange paths.length).map (s.visitAt t paths) =
        ((List.finRange paths.length).map fun i => paths[i]).map (s.visit t) := by
      rw [List.map_map]
      rfl
    _ = paths.map (s.visit t) := by
      rw [← List.ofFn_eq_map]
      congr 1
      exact List.ofFn_getElem

theorem shared?_eq_some_iff {workers : Nat} (schedule : List (Move workers paths.length))
    (tally : Tally) :
    s.shared? t paths schedule = some tally ↔
      tally = s.visitAll t paths ∧
        ∃ state, State.start.run? (s.visitAt t paths) schedule = some state ∧ state.IsOver := by
  have hfound : ∀ state, State.start.run? (s.visitAt t paths) schedule = some state →
      state.IsOver → state.outcomes? = some (paths.map (s.visit t)) := by
    intro state hr hover
    have haccounts := (State.accounts_start (s.visitAt t paths)).run _ schedule hr
    rw [haccounts.outcomes?_eq _ hover, map_visitAt]
  unfold shared?
  cases hr : State.start.run? (s.visitAt t paths) schedule with
  | none => exact ⟨nofun, by rintro ⟨-, state, hstate, -⟩; contradiction⟩
  | some state =>
    by_cases hover : state.IsOver
    · simp only [bind, Option.bind, if_pos hover, hfound state hr hover]
      constructor
      · intro h
        exact ⟨(Option.some.inj h).symm, state, rfl, hover⟩
      · rintro ⟨rfl, -⟩
        rfl
    · simp only [bind, Option.bind, if_neg hover]
      refine ⟨nofun, ?_⟩
      rintro ⟨-, u, hu, hu'⟩
      obtain rfl := Option.some.inj hu
      contradiction

theorem canFind_iff (jobs : Option Nat) (tally : Tally) :
    s.CanFind t paths jobs tally ↔ tally = s.visitAll t paths := by
  constructor
  · intro h
    cases h with
    | alone => rfl
    | shared schedule _ _ _ found => exact ((s.shared?_eq_some_iff t paths schedule _).mp found).1
  · rintro rfl
    by_cases hjobs : jobs = some 1
    · subst hjobs
      exact .alone
    · obtain ⟨workers, serve⟩ := exists_serve jobs
      obtain ⟨schedule, state, hr, hover⟩ :=
        (State.start : State workers paths.length).exists_over (s.visitAt t paths) serve.1
      exact .shared schedule _ hjobs serve
        ((s.shared?_eq_some_iff t paths schedule _).mpr ⟨rfl, state, hr, hover⟩)

/-- Whatever the workers do, they find what is found without them, and take every file once on the
way. What they have begun they can bring to its end, so with any number of jobs this is found and
nothing else. -/
theorem visitAll_of_schedule :
    (∀ workers (schedule : List (Move workers paths.length)) tally,
      s.shared? t paths schedule = some tally →
        tally = s.visitAll t paths ∧
        (schedule.filterMap Move.taken?).Perm (List.finRange paths.length)) ∧
    (∀ workers (schedule : List (Move workers paths.length)) state, 0 < workers →
      State.start.run? (s.visitAt t paths) schedule = some state →
        ∃ further, s.shared? t paths (schedule ++ further) = some (s.visitAll t paths)) ∧
    ∀ jobs tally, s.CanFind t paths jobs tally ↔ tally = s.visitAll t paths := by
  refine ⟨?_, ?_, s.canFind_iff t paths⟩
  · intro workers schedule tally h
    obtain ⟨htally, state, hr, hover⟩ := (s.shared?_eq_some_iff t paths schedule tally).mp h
    have htaken := State.perm_taken _ State.start state schedule hr
    rw [hover.1, List.append_nil] at htaken
    exact ⟨htally, htaken⟩
  · intro workers schedule state hworkers hr
    obtain ⟨further, stop, hstop, hover⟩ := state.exists_over (s.visitAt t paths) hworkers
    refine ⟨further, (s.shared?_eq_some_iff t paths _ _).mpr ⟨rfl, stop, ?_, hover⟩⟩
    rw [State.run?_append, hr]
    exact hstop

/-- Two workers on a file that is listed twice, one of another kind and one that is not there: the
second worker is done before the first one, and they stop in the middle. -/
theorem visitAll_of_schedule_two_workers :
    let s : Search := ⟨⟨Range.default, .set (.range '\u4e00' '\u9fff')⟩, none, ["json"]⟩
    let t : FileTree := { root := .folder [("a.json", .file [0x22, 0xE4, 0xB8, 0xAD, 0x22])] }
    let paths := ["a.json", "b.json", "a.json", "a.css"]
    let tally : Tally := ⟨[⟨"a.json", 1, .script, "中"⟩, ⟨"a.json", 1, .script, "中"⟩], 2, 1, 0⟩
    let begun : List (Move 2 4) := [.take 0 3, .take 1 2, .store 1, .take 1 0]
    let rest : List (Move 2 4) := [.store 0, .take 0 1, .store 1, .store 0]
    s.shared? t paths (begun ++ rest) = some tally ∧ tally = s.visitAll t paths ∧
      ∃ further, s.shared? t paths (begun ++ further) = some tally := by
  intro s t paths tally begun rest
  obtain ⟨ends, goes, -⟩ := visitAll_of_schedule s t paths
  have hall : s.shared? t paths (begun ++ rest) = some tally := by decide +kernel
  have hsame := (ends 2 (begun ++ rest) tally hall).1
  have hbegun : (State.start.run? (s.visitAt t paths) begun).isSome = true := by decide +kernel
  obtain ⟨state, hr⟩ := Option.isSome_iff_exists.mp hbegun
  obtain ⟨further, hfurther⟩ := goes 2 begun state (by decide) hr
  exact ⟨hall, hsame, further, hsame ▸ hfurther⟩

end Glean.Search
