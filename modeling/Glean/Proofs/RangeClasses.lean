import Glean.Proofs.ClassReading
import Glean.Proofs.Occurrence
import Glean.Range
import Mathlib.Data.List.Induction

set_option autoImplicit false

/-!
# Ranges that are one class

A range is put between brackets. If the bracket behind it closes the one in front of it, the pattern
is one class, and whether a text is in range is a matter of its characters one at a time. Otherwise
the pattern goes on behind a class and is no class itself.
-/
namespace Glean

namespace Pattern

namespace OpenGroup

/-- Something was read of a group. -/
def Begun (g : OpenGroup) : Prop := g.items ≠ [] ∨ g.branches ≠ []

/-- What was read of a group is more than one set of characters. -/
def Longer (g : OpenGroup) : Prop :=
  g.branches ≠ [] ∨ 2 ≤ g.items.length ∨ ∃ i ∈ g.items, ∀ s, i.expr ≠ .set s

theorem begun_push (g : OpenGroup) (i : Item) : (g.push i).Begun := .inl (List.cons_ne_nil i _)

theorem Begun.longer_push {g : OpenGroup} (h : g.Begun) (i : Item) : (g.push i).Longer := by
  rcases h with h | h
  · have hpos := List.length_pos_iff.mpr h
    refine .inr (.inl ?_)
    simp only [push, List.length_cons]
    omega
  · exact .inl h

theorem longer_nextBranch (g : OpenGroup) : g.nextBranch.Longer := .inl (List.cons_ne_nil _ _)

theorem longer_repeated (g k : OpenGroup) (min : Nat) (max : Option Nat)
    (h : g.repeated min max = .ok k) : k.Longer := by
  unfold repeated at h
  split at h
  · split at h
    · contradiction
    · obtain rfl := Except.ok.inj h
      exact .inr (.inr ⟨_, List.mem_cons_self, nofun⟩)
  · contradiction

theorem Longer.begun {g : OpenGroup} (h : g.Longer) : g.Begun := by
  rcases h with h | h | ⟨i, hi, -⟩
  · exact .inr h
  · exact .inl (List.ne_nil_of_length_pos (by omega))
  · exact .inl (List.ne_nil_of_mem hi)

theorem foldl_alt_ne_set (bs : List (Nested Expr)) (e : Expr) (h : bs ≠ []) (s : CharSet) :
    bs.foldl (fun e b => .alt b.val e) e ≠ .set s := by
  induction bs using List.reverseRecOn with
  | nil => contradiction
  | append_singleton bs b _ =>
    rw [List.foldl_append]
    exact nofun

theorem foldl_seq_ne_set (is : List Item) (e : Expr) (h : is ≠ []) (s : CharSet) :
    is.foldl (fun e j => .seq j.expr e) e ≠ .set s := by
  induction is using List.reverseRecOn with
  | nil => contradiction
  | append_singleton is i _ =>
    rw [List.foldl_append]
    exact nofun

theorem Longer.value_ne_set {g : OpenGroup} (h : g.Longer) (s : CharSet) :
    g.value.val ≠ .set s := by
  obtain ⟨after, branches, items⟩ := g
  cases branches with
  | cons b bs => exact foldl_alt_ne_set (b :: bs) _ (List.cons_ne_nil b bs) s
  | nil =>
    match items with
    | [] => exact nofun
    | [i] =>
      rcases h with h | h | ⟨j, hj, h⟩
      · contradiction
      · simp at h
      · obtain rfl := List.mem_singleton.mp hj
        exact h s
    | i :: j :: is => exact foldl_seq_ne_set (j :: is) _ (List.cons_ne_nil j is) s

end OpenGroup

namespace Reading

/-- The group that is around all others. -/
def bottom (r : Reading) : OpenGroup := r.outer.getLast?.getD r.group

/-- More was read than one set of characters. -/
def Longer (r : Reading) : Prop := r.bottom.Begun ∧ (r.outer = [] → r.group.Longer)

/-- What can become of the open groups where one sign is read. -/
inductive Moves (r : Reading) : Reading → Prop
  | opens (s : Reading) (h : s.outer = r.group :: r.outer) : Moves r s
  | closes (s : Reading) (g : OpenGroup) (i : Item) (h : r.outer = g :: s.outer)
      (hgroup : s.group = g.push i) : Moves r s
  | stays (s : Reading) (h : s.outer = r.outer) (hgroup : r.group.Begun → s.group.Longer)
      (hbegun : s.group.Begun) : Moves r s

theorem Moves.push {r s : Reading} (i : Item) (h : s.outer = r.outer)
    (hgroup : s.group = r.group.push i) : r.Moves s :=
  .stays s h (fun hb => hgroup ▸ hb.longer_push i) (hgroup ▸ r.group.begun_push i)

theorem Moves.of_longer {r s : Reading} (h : s.outer = r.outer) (hlonger : s.group.Longer) :
    r.Moves s :=
  .stays s h (fun _ => hlonger) hlonger.begun

theorem Moves.of_ok {r s found : Reading} {cs rest : List Char}
    (h : (.ok (found, cs) : Except Fault (Reading × List Char)) = .ok (s, rest))
    (hm : r.Moves found) : r.Moves s := by
  simp only [Except.ok.injEq, Prod.mk.injEq] at h
  exact h.1 ▸ hm

theorem Moves.longer {r s : Reading} (hm : r.Moves s) (h : r.bottom.Begun) : s.Longer := by
  cases hm with
  | opens houter =>
    refine ⟨?_, fun hnil => ?_⟩
    · rwa [bottom, houter, List.getLast?_cons]
    · rw [houter] at hnil
      contradiction
  | closes g i houter hgroup =>
    rw [bottom, houter, List.getLast?_cons, Option.getD_some] at h
    cases hlast : s.outer.getLast? with
    | none =>
      rw [hlast] at h
      refine ⟨?_, fun _ => hgroup ▸ h.longer_push i⟩
      rw [bottom, hlast, hgroup]
      exact g.begun_push i
    | some last =>
      rw [hlast] at h
      refine ⟨by rwa [bottom, hlast], fun hnil => ?_⟩
      rw [hnil] at hlast
      contradiction
  | stays houter hgroup hbegun =>
    rw [bottom] at h
    rw [Longer, bottom, houter]
    cases hlast : r.outer.getLast? with
    | none =>
      rw [hlast] at h
      exact ⟨hbegun, fun _ => hgroup h⟩
    | some last =>
      rw [hlast] at h
      refine ⟨h, fun hnil => ?_⟩
      rw [hnil] at hlast
      contradiction

theorem moves_openGroup (r s : Reading) (cs rest : List Char)
    (h : r.openGroup cs = .ok (s, rest)) : r.Moves s := by
  unfold openGroup at h
  dsimp only at h
  split at h
  case h_5 | h_6 =>
    obtain ⟨⟨name, behind⟩, -, h⟩ := (bind_eq_ok_iff _ _ _).mp h
    exact .of_ok h (.opens _ rfl)
  case h_7 =>
    obtain ⟨⟨f, isEmpty, behind⟩, -, h⟩ := (bind_eq_ok_iff _ _ _).mp h
    dsimp only at h
    split at h
    · exact .of_ok h (.opens _ rfl)
    · split at h
      · contradiction
      · exact .of_ok h (.push ⟨.empty, 0, true⟩ rfl rfl)
  case h_8 =>
    exact .of_ok h (.opens _ rfl)
  all_goals contradiction

theorem moves_closeGroup (r s : Reading) (h : r.closeGroup = .ok s) : r.Moves s := by
  unfold closeGroup at h
  split at h
  · contradiction
  · rename_i g outer houter
    obtain rfl := Except.ok.inj h
    exact .closes _ g _ houter rfl

theorem moves_repeated (r s : Reading) (min : Nat) (max : Option Nat) (rest behind : List Char)
    (h : (do return ({ r with group := ← r.group.repeated min max }, rest)) =
      (Except.ok (s, behind) : Except Fault (Reading × List Char))) : r.Moves s := by
  obtain ⟨g, hg, h⟩ := (bind_eq_ok_iff _ _ _).mp h
  exact .of_ok h (.of_longer rfl (OpenGroup.longer_repeated _ g min max hg))

theorem moves_step (r s : Reading) (c : Char) (cs rest : List Char)
    (h : r.step c cs = .ok (s, rest)) : r.Moves s := by
  unfold step at h
  dsimp only at h
  split at h
  · exact moves_openGroup r s cs rest h
  · obtain ⟨closed, hclosed, h⟩ := (bind_eq_ok_iff _ _ _).mp h
    exact .of_ok h (moves_closeGroup r closed hclosed)
  · exact .of_ok h (.of_longer rfl r.group.longer_nextBranch)
  · obtain ⟨⟨found, behind⟩, -, h⟩ := (bind_eq_ok_iff _ _ _).mp h
    exact .of_ok h (.push _ rfl rfl)
  · exact moves_repeated r s _ _ _ _ h
  · exact moves_repeated r s _ _ _ _ h
  · exact moves_repeated r s _ _ _ _ h
  · obtain ⟨-, -, h⟩ := (bind_eq_ok_iff _ _ _).mp h
    obtain ⟨⟨⟨min, max⟩, behind⟩, -, h⟩ := (bind_eq_ok_iff _ _ _).mp h
    exact moves_repeated r s _ _ _ _ h
  · split at h
    all_goals
      obtain ⟨⟨a, behind⟩, -, h⟩ := (bind_eq_ok_iff _ _ _).mp h
      obtain ⟨e, -, h⟩ := (bind_eq_ok_iff _ _ _).mp h
      exact .of_ok h (.push _ rfl rfl)

theorem longer_run (n : Nat) (r s : Reading) (cs : List Char) (h : r.Longer)
    (hrun : run n r cs = .ok s) : s.Longer := by
  induction n generalizing r cs with
  | zero => exact Except.ok.inj hrun ▸ h
  | succ n ih =>
    unfold run at hrun
    split at hrun
    · exact Except.ok.inj hrun ▸ h
    · obtain ⟨⟨next, rest⟩, hstep, hrun⟩ := (bind_eq_ok_iff _ _ _).mp hrun
      exact ih next rest ((moves_step r next _ _ rest hstep).longer h.1) hrun

/-- What is known once a class was read in front of a pattern. -/
def behindClass (s : Nested CharSet) : Reading :=
  { group := ⟨{}, [], [⟨.set s.val, s.depth, false⟩]⟩ }

theorem run_class (n : Nat) (cs : List Char) :
    run (n + 1) {} ('[' :: cs) =
      readClass {} ('[' :: cs) >>= fun p => run n (behindClass p.1) p.2 := by
  have hskip : ({} : Reading).flags.skip ('[' :: cs) = '[' :: cs := rfl
  rw [run, hskip]
  cases h : readClass {} ('[' :: cs) with
  | error e => simp [step, h, bind, Except.bind]
  | ok p => simp [step, h, bind, Except.bind, pure, Except.pure, behindClass, OpenGroup.push]

theorem longer_run_behindClass (n : Nat) (s : Nested CharSet) (c : Char) (cs : List Char)
    (r : Reading) (h : run (n + 1) (behindClass s) (c :: cs) = .ok r) : r.Longer := by
  have hskip : (behindClass s).flags.skip (c :: cs) = c :: cs := rfl
  rw [run, hskip] at h
  obtain ⟨⟨next, rest⟩, hstep, hrun⟩ := (bind_eq_ok_iff _ _ _).mp h
  have hbegun : (behindClass s).bottom.Begun := .inl (List.cons_ne_nil _ _)
  exact longer_run n next r rest ((moves_step _ next c cs rest hstep).longer hbegun) hrun

end Reading

/-- A range with its brackets. -/
def bracketed (spec : String) : List Char := '[' :: (spec.toList ++ [']'])

theorem toList_bracketed (spec : String) : ("[" ++ spec ++ "]").toList = bracketed spec := by
  simp [bracketed]

theorem read_bracketed (spec : String) :
    read ("[" ++ spec ++ "]") = (do
      let (s, rest) ← readClass {} (bracketed spec)
      let r ← Reading.run ((bracketed spec).length) (.behindClass s) rest
      if r.outer ≠ [] then .error .unclosedGroup
      else if maxDepth < r.group.value.depth then .error .tooDeep else .ok r.group.value.val) := by
  rw [read, toList_bracketed, bracketed, Reading.run_class]
  cases readClass {} ('[' :: (spec.toList ++ [']'])) with
  | error e => rfl
  | ok p => rfl

end Pattern

namespace Range

/-- The bracket behind a range closes the one in front of it. -/
def IsClass (spec : String) : Prop :=
  ∃ s, Pattern.readClass {} (Pattern.bracketed spec) = .ok (s, [])

theorem pattern_of_read (spec : String) (r : Range) (h : read spec = .ok r) :
    Pattern.read ("[" ++ spec ++ "]") = .ok r.pattern := by
  unfold read classOf at h
  split at h
  · rename_i e he
    rw [he, ← Except.ok.inj h]
  · contradiction

theorem read_of_class (spec : String) (s : Pattern.Nested CharSet)
    (h : Pattern.readClass {} (Pattern.bracketed spec) = .ok (s, [])) :
    read spec =
      if Pattern.maxDepth < s.depth then .error (.badRange spec Pattern.Fault.tooDeep.message)
      else .ok ⟨spec, .set s.val⟩ := by
  have hread : Pattern.read ("[" ++ spec ++ "]") =
      if Pattern.maxDepth < s.depth then .error .tooDeep else .ok (.set s.val) := by
    rw [Pattern.read_bracketed, h]
    rfl
  rw [read, classOf, hread]
  by_cases hdepth : Pattern.maxDepth < s.depth
  · simp only [if_pos hdepth]
  · simp only [if_neg hdepth]

/-- A range that is read begins with a class, and is one if nothing stands behind it. -/
theorem class_of_read (spec : String) (r : Range) (h : read spec = .ok r) :
    ∃ s rest, Pattern.readClass {} (Pattern.bracketed spec) = .ok (s, rest) ∧
      (rest = [] → r.pattern = .set s.val) ∧ (rest ≠ [] → ∀ t, r.pattern ≠ .set t) := by
  have hread := pattern_of_read spec r h
  rw [Pattern.read_bracketed] at hread
  obtain ⟨⟨s, rest⟩, hclass, hrest⟩ := (bind_eq_ok_iff _ _ _).mp hread
  obtain ⟨reading, hrun, hvalue⟩ := (bind_eq_ok_iff _ _ _).mp hrest
  refine ⟨s, rest, hclass, ?_, ?_⟩
  · rintro rfl
    rw [read_of_class spec s hclass] at h
    split at h
    · contradiction
    · exact Except.ok.inj h ▸ rfl
  · intro hne t
    obtain ⟨c, rest, rfl⟩ := List.exists_cons_of_ne_nil hne
    have hlonger := Pattern.Reading.longer_run_behindClass _ s c rest reading hrun
    split at hvalue
    · contradiction
    · rename_i houter
      split at hvalue
      · contradiction
      · exact Except.ok.inj hvalue ▸ (hlonger.2 (not_not.mp houter)).value_ne_set t

theorem isClass_iff (spec : String) (r : Range) (h : read spec = .ok r) :
    IsClass spec ↔ ∃ s, r.pattern = .set s := by
  obtain ⟨s, rest, hclass, hset, hlonger⟩ := class_of_read spec r h
  constructor
  · rintro ⟨t, ht⟩
    rw [ht, Except.ok.injEq, Prod.mk.injEq] at hclass
    exact ⟨s.val, hset hclass.2.symm⟩
  · rintro ⟨t, ht⟩
    by_cases hrest : rest = []
    · exact ⟨s, hrest ▸ hclass⟩
    · exact absurd ht (hlonger hrest t)

theorem isClass_of_not_mem (spec : String) (r : Range) (h : read spec = .ok r)
    (hspec : ']' ∉ spec.toList) : IsClass spec := by
  obtain ⟨s, rest, hclass, -⟩ := class_of_read spec r h
  obtain ⟨front, hfront⟩ := Pattern.suffix_of_readClass {} _ s rest hclass
  cases rest using List.reverseRecOn with
  | nil => exact ⟨s, hclass⟩
  | append_singleton rest last _ =>
    -- The bracket that closes the class stands in front of the last one, so in the range.
    have hbody : front ++ ']' :: rest = '[' :: spec.toList := by
      have heq : (front ++ ']' :: rest) ++ [last] = ('[' :: spec.toList) ++ [']'] := by
        simpa [Pattern.bracketed] using hfront
      exact (List.append_inj' heq rfl).1
    have hmem : ']' ∈ '[' :: spec.toList := by
      rw [← hbody]
      simp
    simp [hspec] at hmem

theorem test_of_set (r : Range) (s : CharSet) (h : r.pattern = .set s) (text : String) :
    r.test text = text.toList.any s.contains := by
  rw [test, h, Pattern.occursIn_set]

/-- A range that is read is one class if and only if the bracket behind it closes the one in front
of it, as where it has no closing bracket of its own. Then a text is in range if one of its
characters is. -/
theorem test_of_class (spec : String) (r : Range) (h : read spec = .ok r) :
    (IsClass spec ↔ ∃ s, r.pattern = .set s) ∧ (']' ∉ spec.toList → IsClass spec) ∧
    (IsClass spec →
      (∀ text, r.test text = true ↔ ∃ c ∈ text.toList, r.test (String.singleton c) = true) ∧
      r.test "" = false ∧ ∀ s t, r.test (s ++ t) = (r.test s || r.test t)) := by
  refine ⟨isClass_iff spec r h, isClass_of_not_mem spec r h, fun hclass => ?_⟩
  obtain ⟨s, hs⟩ := (isClass_iff spec r h).mp hclass
  have htest := r.test_of_set s hs
  refine ⟨fun text => ?_, by simp [htest], fun s t => ?_⟩
  · simp [htest, List.any_eq_true]
  · simp only [htest, String.toList_append, List.any_append]

theorem not_test_of_longer :
    (∃ r, read "a]*|[b" = .ok r ∧ r.test "" = true) ∧
    (∃ r, read "a][b" = .ok r ∧ r.test "ab" = true ∧ r.test "a" = false ∧ r.test "b" = false) ∧
    ∃ r, read "a]$|[b" = .ok r ∧ r.test "a" = true ∧ r.test "ac" = false := by
  refine ⟨⟨_, rfl, ?_⟩, ⟨_, rfl, ?_⟩, ⟨_, rfl, ?_⟩⟩
  all_goals decide

theorem test_of_class_brackets :
    ∃ r, read "\\][a-c&&b]" = .ok r ∧ IsClass "\\][a-c&&b]" ∧
      r.test "ab" = true ∧ r.test "az" = false := by
  refine
    ⟨⟨_, .set (.union (.one ']') (.union (.inter (.range 'a' 'c') (.one 'b')) .none))⟩, rfl, ?_⟩
  obtain ⟨hclass, -, law⟩ := test_of_class "\\][a-c&&b]" _ rfl
  have hspec := hclass.mpr ⟨_, rfl⟩
  exact ⟨hspec, ((law hspec).1 "ab").mpr ⟨'b', by simp, by decide⟩, by decide⟩

end Range

end Glean
