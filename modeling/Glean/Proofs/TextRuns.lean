import Glean.Markup.Fragment
import Glean.Proofs.NodeOrder
import Glean.Proofs.PageScripts

set_option autoImplicit false

/-!
# Runs of text

Siblings that are texts and entities make one run, as many as stand together. A run begins where the
sibling in front of it ends; the first sibling of an element stands behind the place where the
element begins, and the first sibling in an error behind what is in front of the error. The runs of
a page, found by this description, are those that reading it brings up, in the same order.
-/
namespace Glean.Markup

/-- The nodes that runs are made of. -/
def Node.IsText (n : Node) : Prop := n.kind = .text ∨ n.kind = .entity

instance (n : Node) : Decidable n.IsText := inferInstanceAs (Decidable (_ ∨ _))

theorem Node.not_isText_of_kind (n : Node) (kind : Kind) (hk : n.kind = kind)
    (h : kind ≠ .text ∧ kind ≠ .entity) : ¬ n.IsText := by
  rintro (ht | ht)
  · exact h.1 (hk.symm.trans ht)
  · exact h.2 (hk.symm.trans ht)

/-- Where the last of some siblings ends, or `last` if there are none. -/
def endOf (last : Nat) (nodes : List Node) : Nat := (nodes.getLast?.map (·.stop)).getD last

/-- A run of text, from the place where it begins. -/
structure TextRun where
  first : Nat
  texts : List Node

namespace TextRun

def stop (run : TextRun) : Nat := endOf run.first run.texts

def add (run : TextRun) (n : Node) : TextRun := ⟨run.first, run.texts ++ [n]⟩

def fragment (s : Page) (run : TextRun) : Fragment :=
  .text (s.byteAt run.first) (s.text run.first run.stop)

theorem stop_add (run : TextRun) (n : Node) : (run.add n).stop = n.stop := by
  rw [stop, add, endOf, List.getLast?_concat]
  rfl

end TextRun

theorem endOf_concat (last : Nat) (nodes : List Node) (n : Node) :
    endOf last (nodes ++ [n]) = n.stop := by
  rw [endOf, List.getLast?_concat]
  rfl

theorem endOf_cons (last : Nat) (n : Node) (nodes : List Node) :
    endOf last (n :: nodes) = endOf n.stop nodes := by
  cases nodes with
  | nil => rfl
  | cons m nodes =>
    rw [endOf, endOf, List.getLast?_cons_cons]
    rfl

/-- The runs below some siblings, where `last` is the end of what is in front of them. -/
inductive RunIn : Nat → List Node → TextRun → Prop
  | here (last : Nat) (before texts behind : List Node) (nonempty : texts ≠ [])
      (all : ∀ n ∈ texts, n.IsText) (front : ∀ n ∈ before.getLast?, ¬ n.IsText)
      (back : ∀ n ∈ behind.head?, ¬ n.IsText) :
      RunIn last (before ++ texts ++ behind) ⟨endOf last before, texts⟩
  | element (last : Nat) (before behind : List Node) (n : Node) (run : TextRun)
      (kind : n.kind = .element) (below : RunIn n.start n.children run) :
      RunIn last (before ++ n :: behind) run
  | error (last : Nat) (before behind : List Node) (n : Node) (run : TextRun)
      (kind : n.kind = .error) (below : RunIn (endOf last before) n.children run) :
      RunIn last (before ++ n :: behind) run

mutual

def Node.runs (last : Nat) : Node → List TextRun
  | ⟨kind, start, _, children⟩ =>
    match kind with
    | .element => runsIn start none children
    | .error => runsIn last none children
    | _ => []

/-- The runs below some siblings in order. `run` is the one that they may go on with. -/
def runsIn (last : Nat) (run : Option TextRun) : List Node → List TextRun
  | [] => run.toList
  | n :: rest =>
    if n.IsText then runsIn n.stop (some ((run.getD ⟨last, []⟩).add n)) rest
    else run.toList ++ n.runs last ++ runsIn n.stop none rest

end

mutual

def Node.texts : Node → List Node
  | ⟨kind, _, _, children⟩ =>
    match kind with
    | .element => textsIn children
    | .error => textsIn children
    | _ => []

/-- The texts and entities that are reached through elements and errors. -/
def textsIn : List Node → List Node
  | [] => []
  | n :: rest => if n.IsText then n :: textsIn rest else n.texts ++ textsIn rest

end

mutual

theorem Node.flatMap_runs (last : Nat) : (n : Node) → (n.runs last).flatMap (·.texts) = n.texts
  | ⟨kind, start, stop, children⟩ => by
    unfold Node.runs Node.texts
    cases kind with
    | element =>
      dsimp only
      rw [flatMap_runsIn start none children]
      rfl
    | error =>
      dsimp only
      rw [flatMap_runsIn last none children]
      rfl
    | _ => rfl

/-- Every text that is reached is in a run, and in that run only. -/
theorem flatMap_runsIn (last : Nat) (run : Option TextRun) : (nodes : List Node) →
    (runsIn last run nodes).flatMap (·.texts) =
      (run.map (·.texts)).getD [] ++ textsIn nodes
  | [] => by
    rw [runsIn, textsIn, List.append_nil]
    cases run with
    | none => rfl
    | some run => exact List.append_nil _
  | n :: rest => by
    rw [runsIn, textsIn]
    split
    · rw [flatMap_runsIn n.stop _ rest]
      change ((run.getD ⟨last, []⟩).texts ++ [n]) ++ textsIn rest = _
      rw [List.append_assoc]
      cases run with
      | none => rfl
      | some run => rfl
    · rw [List.flatMap_append, List.flatMap_append, Node.flatMap_runs last n,
        flatMap_runsIn n.stop none rest, List.append_assoc]
      cases run with
      | none => rfl
      | some run =>
        change run.texts ++ [] ++ (n.texts ++ ([] ++ textsIn rest)) = _
        rw [List.append_nil]
        rfl

end

section

variable (last : Nat)

/-- The runs of a sibling are those of the siblings. -/
theorem mem_runsIn_of_mem_runs (before behind : List Node) (n : Node) (run : TextRun)
    (started : Option TextRun) (hn : ¬ n.IsText) (h : run ∈ n.runs (endOf last before)) :
    run ∈ runsIn last started (before ++ n :: behind) := by
  induction before generalizing last started with
  | nil =>
    rw [List.nil_append, runsIn, if_neg hn]
    exact List.mem_append_left _ (List.mem_append_right _ h)
  | cons m before ih =>
    rw [endOf_cons] at h
    rw [List.cons_append, runsIn]
    split
    · exact ih m.stop _ h
    · exact List.mem_append_right _ (ih m.stop none h)

theorem mem_runsIn_of_element (before behind : List Node) (n : Node) (run : TextRun)
    (started : Option TextRun) (hk : n.kind = .element)
    (h : run ∈ runsIn n.start none n.children) :
    run ∈ runsIn last started (before ++ n :: behind) := by
  have hnot := n.not_isText_of_kind .element hk (by decide)
  refine mem_runsIn_of_mem_runs last before behind n run started hnot ?_
  obtain ⟨kind, start, stop, children⟩ := n
  cases hk
  unfold Node.runs
  exact h

theorem mem_runsIn_of_error (before behind : List Node) (n : Node) (run : TextRun)
    (started : Option TextRun) (hk : n.kind = .error)
    (h : run ∈ runsIn (endOf last before) none n.children) :
    run ∈ runsIn last started (before ++ n :: behind) := by
  have hnot := n.not_isText_of_kind .error hk (by decide)
  refine mem_runsIn_of_mem_runs last before behind n run started hnot ?_
  obtain ⟨kind, start, stop, children⟩ := n
  cases hk
  unfold Node.runs
  exact h

/-- Behind a sibling that is no text, reading starts afresh. -/
theorem mem_runsIn_append (before rest : List Node) (run : TextRun) (started : Option TextRun)
    (hfront : ∀ n ∈ before.getLast?, ¬ n.IsText) (hstarted : before = [] → started = none)
    (h : run ∈ runsIn (endOf last before) none rest) :
    run ∈ runsIn last started (before ++ rest) := by
  induction before generalizing last started with
  | nil =>
    rw [hstarted rfl]
    exact h
  | cons m before ih =>
    rw [endOf_cons] at h
    have hback : ∀ n ∈ before.getLast?, ¬ n.IsText := by
      intro n hn
      apply hfront n
      rw [List.getLast?_cons]
      cases hlast : before.getLast? with
      | none =>
        rw [hlast] at hn
        contradiction
      | some l =>
        rw [hlast] at hn
        exact hn
    rw [List.cons_append, runsIn]
    split
    · rename_i hm
      refine ih m.stop _ hback ?_ h
      rintro rfl
      exact absurd hm (hfront m rfl)
    · exact List.mem_append_right _ (ih m.stop none hback (fun _ => rfl) h)

/-- Texts go on with a run up to the first sibling that is none. -/
theorem mem_runsIn_texts (texts behind : List Node) (run : TextRun)
    (hall : ∀ n ∈ texts, n.IsText) (hback : ∀ n ∈ behind.head?, ¬ n.IsText) :
    ⟨run.first, run.texts ++ texts⟩ ∈ runsIn last (some run) (texts ++ behind) := by
  induction texts generalizing last run with
  | nil =>
    rw [List.append_nil, List.nil_append]
    cases behind with
    | nil =>
      rw [runsIn]
      exact List.mem_singleton.mpr rfl
    | cons n behind =>
      rw [runsIn, if_neg (hback n rfl)]
      exact List.mem_append_left _ (List.mem_append_left _ (List.mem_singleton.mpr rfl))
  | cons n texts ih =>
    rw [List.forall_mem_cons] at hall
    rw [List.cons_append, runsIn, if_pos hall.1]
    have hmore := ih n.stop (run.add n) hall.2
    rw [TextRun.add, List.append_assoc] at hmore
    exact hmore

theorem RunIn.mem (nodes : List Node) (run : TextRun) (h : RunIn last nodes run) :
    run ∈ runsIn last none nodes := by
  induction h with
  | here last before texts behind nonempty all front back =>
    rw [List.append_assoc]
    refine mem_runsIn_append last before _ _ none front (fun _ => rfl) ?_
    cases texts with
    | nil => contradiction
    | cons n texts =>
      rw [List.forall_mem_cons] at all
      rw [List.cons_append, runsIn, if_pos all.1]
      exact mem_runsIn_texts n.stop texts behind ⟨endOf last before, [n]⟩ all.2 back
  | element last before behind n run kind below ih =>
    exact mem_runsIn_of_element last before behind n run none kind ih
  | error last before behind n run kind below ih =>
    exact mem_runsIn_of_error last before behind n run none kind ih

/-- The run that some texts have begun. -/
def begun (first : Nat) (texts : List Node) : Option TextRun :=
  if texts = [] then none else some ⟨first, texts⟩

theorem RunIn.of_begun (before texts behind : List Node) (run : TextRun)
    (hall : ∀ n ∈ texts, n.IsText) (hfront : ∀ n ∈ before.getLast?, ¬ n.IsText)
    (hback : ∀ n ∈ behind.head?, ¬ n.IsText)
    (h : run ∈ (begun (endOf last before) texts).toList) :
    RunIn last (before ++ texts ++ behind) run := by
  unfold begun at h
  split at h
  · contradiction
  · rename_i hne
    rw [List.mem_singleton.mp h]
    exact .here last before texts behind hne hall hfront hback

theorem begun_concat (before texts : List Node) (n : Node) :
    some (((begun (endOf last before) texts).getD ⟨endOf last (before ++ texts), []⟩).add n) =
      begun (endOf last before) (texts ++ [n]) := by
  rw [begun, begun, if_neg (List.append_ne_nil_of_right_ne_nil texts (List.cons_ne_nil n []))]
  split
  · rename_i hnil
    subst hnil
    rw [List.append_nil]
    rfl
  · rfl

end

mutual

theorem Node.runIn_of_mem (last : Nat) (before behind : List Node) (run : TextRun) : (n : Node) →
    run ∈ n.runs (endOf last before) → RunIn last (before ++ n :: behind) run
  | ⟨kind, start, stop, children⟩, h => by
    unfold Node.runs at h
    split at h
    · exact .element last before behind _ run rfl
        (runIn_of_mem start [] [] run nofun nofun children h)
    · exact .error last before behind _ run rfl
        (runIn_of_mem (endOf last before) [] [] run nofun nofun children h)
    · contradiction

/-- What is in front of the siblings that are left splits into texts that may go on and what is in
front of these. -/
theorem runIn_of_mem (last : Nat) (before texts : List Node) (run : TextRun)
    (hall : ∀ n ∈ texts, n.IsText) (hfront : ∀ n ∈ before.getLast?, ¬ n.IsText) :
    (nodes : List Node) →
    run ∈ runsIn (endOf last (before ++ texts)) (begun (endOf last before) texts) nodes →
    RunIn last (before ++ texts ++ nodes) run
  | [], h => by
    rw [runsIn] at h
    exact .of_begun last before texts [] run hall hfront nofun h
  | n :: rest, h => by
    rw [runsIn] at h
    split at h
    · rename_i hn
      have hmore : ∀ m ∈ texts ++ [n], m.IsText := by
        intro m hm
        rcases List.mem_append.mp hm with hm | hm
        · exact hall m hm
        · exact List.mem_singleton.mp hm ▸ hn
      rw [begun_concat, ← endOf_concat last (before ++ texts) n, List.append_assoc] at h
      have hrest := runIn_of_mem last before (texts ++ [n]) run hmore hfront rest h
      rw [List.append_cons, List.append_assoc before texts [n]]
      exact hrest
    · rename_i hn
      have hback : ∀ m ∈ (n :: rest).head?, ¬ m.IsText := by
        rintro m ⟨⟩
        exact hn
      rcases List.mem_append.mp h with h | h
      · rcases List.mem_append.mp h with h | h
        · exact .of_begun last before texts (n :: rest) run hall hfront hback h
        · exact Node.runIn_of_mem last (before ++ texts) rest run n h
      · -- The texts are done with, and so is the sibling behind them.
        have hlast : ∀ m ∈ (before ++ texts ++ [n]).getLast?, ¬ m.IsText := by
          rw [List.getLast?_concat]
          rintro m ⟨⟩
          exact hn
        rw [← endOf_concat last (before ++ texts) n,
          ← List.append_nil (before ++ texts ++ [n])] at h
        have hrest :=
          runIn_of_mem last (before ++ texts ++ [n]) [] run nofun hlast rest h
        rw [List.append_cons]
        rw [List.append_nil] at hrest
        exact hrest

end

/-- The runs that are read are those that there are. -/
theorem mem_runsIn_iff (last : Nat) (nodes : List Node) (run : TextRun) :
    run ∈ runsIn last none nodes ↔ RunIn last nodes run := by
  constructor
  · intro h
    exact runIn_of_mem last [] [] run nofun nofun nodes h
  · exact RunIn.mem last nodes run

/-! ### Runs as they are read -/

def Fragment.isText : Fragment → Bool
  | .text _ _ => true
  | _ => false

theorem filter_isText_values (values : List Value) :
    (values.map Fragment.value).filter Fragment.isText = [] := by
  rw [List.filter_eq_nil_iff]
  intro f hf
  obtain ⟨v, -, rfl⟩ := List.mem_map.mp hf
  exact Bool.false_ne_true

theorem items_text (s : Page) (last : Nat) (run : Option Nat) (n : Node) (rest : List Node)
    (hn : n.IsText) : items s last run (n :: rest) = items s n.stop (run.or (some last)) rest := by
  rw [items]
  exact if_pos hn

theorem items_other (s : Page) (last : Nat) (run : Option Nat) (n : Node) (rest : List Node)
    (hn : ¬ n.IsText) : items s last run (n :: rest) =
      s.run last run ++ n.items s last ++ items s n.stop none rest := by
  rw [items]
  exact if_neg hn

theorem filter_isText_run (s : Page) (last : Nat) (run : Option TextRun)
    (hrun : ∀ r ∈ run, r.stop = last) :
    (fragmentsOf (s.run last (run.map (·.first)))).filter Fragment.isText =
      run.toList.map (·.fragment s) := by
  cases run with
  | none => rfl
  | some r =>
    change [Fragment.text (s.byteAt r.first) (s.text r.first last)] = [r.fragment s]
    rw [← hrun r rfl]
    rfl

mutual

theorem Node.filter_isText_items (s : Page) (last : Nat) : (n : Node) →
    (fragmentsOf (n.items s last)).filter Fragment.isText =
      (n.runs last).map (·.fragment s)
  | ⟨kind, start, stop, children⟩ => by
    unfold Node.items Node.runs
    cases kind with
    | element =>
      dsimp only
      rw [fragmentsOf, fragmentsOf, List.append_nil, Item.fragments, List.filter_append,
        filter_isText_values, List.nil_append]
      exact filter_isText_items s start none nofun children
    | error => exact filter_isText_items s last none nofun children
    | _ => rfl

/-- The texts of a page are its runs. -/
theorem filter_isText_items (s : Page) (last : Nat) (run : Option TextRun)
    (hrun : ∀ r ∈ run, r.stop = last) : (nodes : List Node) →
    (fragmentsOf (items s last (run.map (·.first)) nodes)).filter Fragment.isText =
      (runsIn last run nodes).map (·.fragment s)
  | [] => by
    rw [items, runsIn]
    exact filter_isText_run s last run hrun
  | n :: rest => by
    rw [runsIn]
    by_cases hn : n.IsText
    · rw [items_text s last _ n rest hn, if_pos hn]
      have hmore : (run.map (·.first)).or (some last) =
          (some ((run.getD ⟨last, []⟩).add n)).map (·.first) := by
        cases run with
        | none => rfl
        | some r => rfl
      rw [hmore]
      refine filter_isText_items s n.stop _ ?_ rest
      rintro r ⟨⟩
      exact TextRun.stop_add _ n
    · rw [items_other s last _ n rest hn, if_neg hn, fragmentsOf_append, fragmentsOf_append,
        List.filter_append, List.filter_append, List.map_append, List.map_append,
        Node.filter_isText_items s last n,
        filter_isText_run s last run hrun]
      exact congrArg _ (filter_isText_items s n.stop none nofun rest)

end

/-! ### Where runs lie -/

theorem endOf_mono (a b : Nat) (nodes : List Node) (h : a ≤ b) : endOf a nodes ≤ endOf b nodes := by
  cases nodes with
  | nil => exact h
  | cons n nodes =>
    rw [endOf_cons, endOf_cons]

theorem endOf_eq (a b : Nat) (nodes : List Node) (h : nodes ≠ []) :
    endOf a nodes = endOf b nodes := by
  cases nodes with
  | nil => contradiction
  | cons n nodes => rw [endOf_cons, endOf_cons]

theorem PlacedIn.split {front back : List Node} {lo hi : Nat} (h : PlacedIn lo hi (front ++ back)) :
    PlacedIn lo (endOf lo front) front ∧ PlacedIn (endOf lo front) hi back := by
  induction front generalizing lo with
  | nil =>
    refine ⟨?_, h⟩
    unfold PlacedIn
    exact Nat.le_refl lo
  | cons n front ih =>
    rw [List.cons_append, PlacedIn] at h
    rw [endOf_cons, PlacedIn]
    obtain ⟨hfront, hback⟩ := ih h.2
    have hbounds := h.1.bounds
    have hle := hfront.le
    exact ⟨⟨h.1.within lo _ hbounds.1 hle, hfront⟩, hback⟩

theorem le_endOf (last : Nat) (nodes : List Node) (lo hi : Nat) (h : PlacedIn lo hi nodes)
    (hl : last ≤ lo) : last ≤ endOf last nodes := by
  induction nodes generalizing last lo with
  | nil => exact Nat.le_refl last
  | cons n nodes ih =>
    rw [PlacedIn] at h
    rw [endOf_cons]
    have hbounds := h.1.bounds
    have hrest := ih n.stop n.stop h.2 (Nat.le_refl _)
    omega

/-- A run reaches over its texts and begins no earlier than where what is in front ends. -/
structure TextRun.Within (lo hi : Nat) (run : TextRun) : Prop where
  first : lo ≤ run.first
  order : run.first ≤ run.stop
  stop : run.stop ≤ hi
  texts : ∀ n ∈ run.texts, run.first ≤ n.start ∧ n.start ≤ n.stop ∧ n.stop ≤ run.stop

theorem RunIn.within (last : Nat) (nodes : List Node) (run : TextRun) (h : RunIn last nodes run)
    (lo hi : Nat) (hp : PlacedIn lo hi nodes) (hl : last ≤ lo) : run.Within last hi := by
  induction h generalizing lo hi with
  | here last before texts behind nonempty all front back =>
    rw [List.append_assoc] at hp
    obtain ⟨hbefore, hrest⟩ := hp.split
    obtain ⟨htexts, hbehind⟩ := hrest.split
    have hfirst := le_endOf last before lo _ hbefore hl
    have hmono := endOf_mono last lo before hl
    have horder := le_endOf (endOf last before) texts _ _ htexts hmono
    have hstop : (TextRun.mk (endOf last before) texts).stop = endOf (endOf lo before) texts :=
      endOf_eq _ _ texts nonempty
    refine ⟨hfirst, horder, ?_, ?_⟩
    · rw [hstop]
      exact hbehind.le
    · intro n hn
      have hbounds := (htexts.of_mem n hn).bounds
      rw [hstop]
      exact ⟨Nat.le_trans hmono hbounds.1, hbounds.2⟩
  | element last before behind n run kind below ih =>
    obtain ⟨hbefore, hn⟩ := hp.split
    rw [PlacedIn] at hn
    have hinner := ih n.start n.stop hn.1.children (Nat.le_refl _)
    have hbounds := hn.1.bounds
    have hstart := hinner.first
    have hstop := hinner.stop
    have hend := hn.2.le
    have hle := hbefore.le
    exact ⟨by omega, hinner.order, by omega, hinner.texts⟩
  | error last before behind n run kind below ih =>
    obtain ⟨hbefore, hn⟩ := hp.split
    rw [PlacedIn] at hn
    have hmono := endOf_mono last lo before hl
    have hbounds := hn.1.bounds
    have hinner := ih n.start n.stop hn.1.children (by omega)
    have hfirst := le_endOf last before lo _ hbefore hl
    have hstart := hinner.first
    have hstop := hinner.stop
    have hend := hn.2.le
    exact ⟨by omega, hinner.order, by omega, hinner.texts⟩

/-- The nodes below some siblings, apart from what is below a text. -/
inductive InTree : List Node → Node → Prop
  | top (nodes : List Node) (n : Node) (mem : n ∈ nodes) : InTree nodes n
  | inside (nodes : List Node) (m n : Node) (mem : m ∈ nodes) (other : ¬ m.IsText)
      (tree : InTree m.children n) : InTree nodes n

namespace InTree

theorem append {front back : List Node} {n : Node} (h : InTree (front ++ back) n) :
    InTree front n ∨ InTree back n := by
  cases h with
  | top _ n mem =>
    rcases List.mem_append.mp mem with mem | mem
    · exact .inl (.top front n mem)
    · exact .inr (.top back n mem)
  | inside _ m n mem other tree =>
    rcases List.mem_append.mp mem with mem | mem
    · exact .inl (.inside front m n mem other tree)
    · exact .inr (.inside back m n mem other tree)

theorem cons {first : Node} {rest : List Node} {n : Node} (h : InTree (first :: rest) n) :
    n = first ∨ InTree first.children n ∨ InTree rest n := by
  cases h with
  | top _ n mem =>
    rcases List.mem_cons.mp mem with mem | mem
    · exact .inl mem
    · exact .inr (.inr (.top rest n mem))
  | inside _ m n mem other tree =>
    rcases List.mem_cons.mp mem with rfl | mem
    · exact .inr (.inl tree)
    · exact .inr (.inr (.inside rest m n mem other tree))

theorem isText {texts : List Node} {n : Node} (h : InTree texts n)
    (hall : ∀ n ∈ texts, n.IsText) : n.IsText := by
  cases h with
  | top _ n mem => exact hall n mem
  | inside _ m n mem other tree => exact absurd (hall m mem) other

theorem placed {nodes : List Node} {n : Node} (h : InTree nodes n) (lo hi : Nat)
    (hp : PlacedIn lo hi nodes) : n.Placed lo hi := by
  induction h generalizing lo hi with
  | top nodes n mem => exact hp.of_mem n mem
  | inside nodes m n mem other tree ih =>
    have hm := hp.of_mem m mem
    have hn := ih m.start m.stop hm.children
    have hbounds := hm.bounds
    have hinner := hn.bounds
    exact hn.within lo hi (by omega) (by omega)

/-- Nodes in front end where the last sibling does, whatever stands in front of the siblings. -/
theorem stop_le {nodes : List Node} {n : Node} (h : InTree nodes n) (last lo hi : Nat)
    (hp : PlacedIn lo hi nodes) : n.stop ≤ endOf last nodes := by
  have hne : nodes ≠ [] := by
    rintro rfl
    cases h with
    | top _ _ mem => contradiction
    | inside _ m _ mem => contradiction
  rw [← List.append_nil nodes] at hp
  have hn := h.placed lo _ hp.split.1
  rw [endOf_eq last lo nodes hne]
  exact hn.bounds.2.2

end InTree

/-- A node that neither is text nor can have text of a run below it. -/
def Node.IsBare (n : Node) : Prop := ¬ n.IsText ∧ n.kind ≠ .element ∧ n.kind ≠ .error

/-- Runs and nodes without text lie apart. -/
theorem RunIn.apart (last : Nat) (nodes : List Node) (run : TextRun) (h : RunIn last nodes run)
    (m : Node) (hm : InTree nodes m) (hk : m.IsBare) (lo hi : Nat) (hp : PlacedIn lo hi nodes)
    (hl : last ≤ lo) : run.stop ≤ m.start ∨ m.stop ≤ run.first := by
  induction h generalizing lo hi with
  | here last before texts behind nonempty all front back =>
    rw [List.append_assoc] at hp hm
    obtain ⟨hbefore, hrest⟩ := hp.split
    obtain ⟨htexts, hbehind⟩ := hrest.split
    have hstop : (TextRun.mk (endOf last before) texts).stop = endOf (endOf lo before) texts :=
      endOf_eq _ _ texts nonempty
    rcases hm.append with hm | hm
    · exact .inr (hm.stop_le last lo _ hbefore)
    · rcases hm.append with hm | hm
      · exact absurd (hm.isText all) hk.1
      · rw [hstop]
        exact .inl (hm.placed _ _ hbehind).bounds.1
  | element last before behind n run kind below ih =>
    obtain ⟨hbefore, hn⟩ := hp.split
    rw [PlacedIn] at hn
    have hinner := below.within n.start n.children run n.start n.stop hn.1.children (Nat.le_refl _)
    have hbounds := hn.1.bounds
    rcases hm.append with hm | hm
    · have hle := (hm.placed lo _ hbefore).bounds
      exact .inr (Nat.le_trans hle.2.2 (Nat.le_trans hbounds.1 hinner.first))
    · rcases hm.cons with rfl | hm | hm
      · exact absurd kind hk.2.1
      · exact ih hm n.start n.stop hn.1.children (Nat.le_refl _)
      · exact .inl (Nat.le_trans hinner.stop (hm.placed _ _ hn.2).bounds.1)
  | error last before behind n run kind below ih =>
    obtain ⟨hbefore, hn⟩ := hp.split
    rw [PlacedIn] at hn
    have hbounds := hn.1.bounds
    have hmono := endOf_mono last lo before hl
    have hfirst : endOf last before ≤ n.start := by omega
    have hinner := below.within _ n.children run n.start n.stop hn.1.children hfirst
    rcases hm.append with hm | hm
    · exact .inr (Nat.le_trans (hm.stop_le last lo _ hbefore) hinner.first)
    · rcases hm.cons with rfl | hm | hm
      · exact absurd kind hk.2.2
      · exact ih hm n.start n.stop hn.1.children hfirst
      · exact .inl (Nat.le_trans hinner.stop (hm.placed _ _ hn.2).bounds.1)

end Glean.Markup
