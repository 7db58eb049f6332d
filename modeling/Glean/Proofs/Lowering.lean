import Glean.Proofs.CheckedLowering
import Mathlib.Data.List.Infix

set_option autoImplicit false

/-!
# No text is lost

What comes up when nodes of a page are read, for any nodes that lie in order in the page: the texts
and entities in it are there, each once, and nothing that is no text is taken for one.
-/
namespace Glean.Markup

/-- The siblings that are reached through elements and errors. -/
inductive Reaches : List Node → List Node → Prop
  | here (nodes : List Node) : Reaches nodes nodes
  | inside (nodes siblings : List Node) (n : Node) (mem : n ∈ nodes)
      (kind : n.kind = .element ∨ n.kind = .error) (more : Reaches n.children siblings) :
      Reaches nodes siblings

/-! ### Texts that stand together -/

theorem exists_run_of_started (last : Nat) (run : TextRun) (nodes : List Node) :
    ∃ r ∈ runsIn last (some run) nodes, run.texts <+: r.texts := by
  induction nodes generalizing last run with
  | nil =>
    rw [runsIn]
    exact ⟨run, List.mem_singleton.mpr rfl, List.prefix_refl _⟩
  | cons n nodes ih =>
    rw [runsIn]
    split
    · obtain ⟨r, hr, hfront⟩ := ih n.stop (run.add n)
      exact ⟨r, hr, (List.prefix_append run.texts [n]).trans hfront⟩
    · refine ⟨run, ?_, List.prefix_refl _⟩
      exact List.mem_append_left _ (List.mem_append_left _ (List.mem_singleton.mpr rfl))

theorem exists_run_of_texts (last : Nat) (run : TextRun) (texts behind : List Node)
    (hall : ∀ n ∈ texts, n.IsText) :
    ∃ r ∈ runsIn last (some run) (texts ++ behind), run.texts ++ texts <+: r.texts := by
  induction texts generalizing last run with
  | nil =>
    rw [List.append_nil, List.nil_append]
    exact exists_run_of_started last run behind
  | cons n texts ih =>
    rw [List.forall_mem_cons] at hall
    obtain ⟨r, hr, hfront⟩ := ih n.stop (run.add n) hall.2
    rw [List.cons_append, runsIn, if_pos hall.1]
    rw [TextRun.add, List.append_assoc] at hfront
    exact ⟨r, hr, hfront⟩

/-- Texts that stand together among siblings stand together in a run. -/
theorem exists_run_of_block (last : Nat) (started : Option TextRun)
    (before texts behind : List Node) (hne : texts ≠ []) (hall : ∀ n ∈ texts, n.IsText) :
    ∃ r ∈ runsIn last started (before ++ texts ++ behind), texts <:+: r.texts := by
  induction before generalizing last started with
  | nil =>
    cases texts with
    | nil => contradiction
    | cons n texts =>
      rw [List.forall_mem_cons] at hall
      rw [List.nil_append, List.cons_append, runsIn, if_pos hall.1]
      obtain ⟨r, hr, hfront⟩ :=
        exists_run_of_texts n.stop ((started.getD ⟨last, []⟩).add n) texts behind hall.2
      rw [TextRun.add, List.append_assoc] at hfront
      exact ⟨r, hr, (List.suffix_append _ _).isInfix.trans hfront.isInfix⟩
  | cons m before ih =>
    rw [List.cons_append, List.cons_append, runsIn]
    split
    · exact ih m.stop _
    · obtain ⟨r, hr, hblock⟩ := ih m.stop none
      exact ⟨r, List.mem_append_right _ hr, hblock⟩

/-- The runs of siblings that are reached are runs of the whole. -/
theorem Reaches.exists_subset (nodes siblings : List Node) (h : Reaches nodes siblings)
    (last : Nat) : ∃ front, runsIn front none siblings ⊆ runsIn last none nodes := by
  induction h generalizing last with
  | here nodes => exact ⟨last, fun _ h => h⟩
  | inside nodes siblings n mem kind more ih =>
    obtain ⟨before, behind, rfl⟩ := List.append_of_mem mem
    rcases kind with kind | kind
    · obtain ⟨front, hsubset⟩ := ih n.start
      refine ⟨front, fun run hrun => ?_⟩
      exact mem_runsIn_of_element last before behind n run none kind (hsubset hrun)
    · obtain ⟨front, hsubset⟩ := ih (endOf last before)
      refine ⟨front, fun run hrun => ?_⟩
      exact mem_runsIn_of_error last before behind n run none kind (hsubset hrun)

/-! ### Fragments and the places of nodes -/

/-- A text that reaches over a node. -/
def Fragment.Covers (s : Page) (n : Node) (f : Fragment) : Prop :=
  f.isText = true ∧ f.start ≤ s.byteAt n.start ∧ s.byteAt n.stop ≤ f.stop

instance (s : Page) (n : Node) (f : Fragment) : Decidable (f.Covers s n) :=
  inferInstanceAs (Decidable (_ ∧ _ ∧ _))

theorem countP_eq_one {α : Type} (p : α → Bool) (xs : List α)
    (hex : ∃ x ∈ xs, p x = true)
    (hone : xs.Pairwise fun x y => p x = true → p y = false) : xs.countP p = 1 := by
  induction xs with
  | nil =>
    obtain ⟨x, hx, -⟩ := hex
    contradiction
  | cons x xs ih =>
    rw [List.pairwise_cons] at hone
    cases hx : p x with
    | true =>
      have hnone : xs.countP p = 0 := by
        rw [List.countP_eq_zero]
        intro y hy
        rw [hone.1 y hy hx]
        exact Bool.false_ne_true
      rw [List.countP_cons_of_pos hx, hnone]
    | false =>
      have hrest : ∃ y ∈ xs, p y = true := by
        obtain ⟨y, hy, hpy⟩ := hex
        rcases List.mem_cons.mp hy with rfl | hy
        · rw [hx] at hpy
          contradiction
        · exact ⟨y, hy, hpy⟩
      rw [List.countP_cons_of_neg (by rw [hx]; exact Bool.false_ne_true)]
      exact ih hrest hone.2

/-- Nothing of a page's text is lost and nothing is doubled, when its nodes are read: what comes up is
cut out of the page, and its texts are the runs of the nodes. Texts that stand together come up
together, each of them once, in order and inside the page, and none of them reaches over a tag, a
comment, a script or a style. -/
structure KeepsText (s : Page) (nodes : List Node) : Prop where
  cuts : items? s 0 none nodes = some (items s 0 none nodes)
  runs : ∃ runs : List TextRun,
    (fragmentsOf (items s 0 none nodes)).filter Fragment.isText = runs.map (·.fragment s) ∧
    runs.flatMap (·.texts) = textsIn nodes ∧
    (∀ run, run ∈ runs ↔ RunIn 0 nodes run) ∧
    ∀ run ∈ runs, ∀ n ∈ run.texts, (run.fragment s).Covers s n
  together : ∀ siblings, Reaches nodes siblings → ∀ before texts behind,
    siblings = before ++ texts ++ behind → texts ≠ [] → (∀ n ∈ texts, n.IsText) →
    ∃ f ∈ fragmentsOf (items s 0 none nodes), ∀ n ∈ texts, f.Covers s n
  once : ∀ siblings, Reaches nodes siblings → ∀ n ∈ siblings, n.IsText → n.start < n.stop →
    (fragmentsOf (items s 0 none nodes)).countP (fun f => decide (f.Covers s n)) = 1
  ordered : (fragmentsOf (items s 0 none nodes)).Pairwise fun f g => f.stop ≤ g.start
  inside : ∀ f ∈ fragmentsOf (items s 0 none nodes), f.start ≤ f.stop ∧ f.stop ≤ s.byteAt s.size
  clear : ∀ m, InTree nodes m → m.IsBare → ∀ f ∈ fragmentsOf (items s 0 none nodes),
    f.isText = true → f.stop ≤ s.byteAt m.start ∨ s.byteAt m.stop ≤ f.start

theorem Reaches.placed (nodes siblings : List Node) (h : Reaches nodes siblings) (lo hi : Nat)
    (hp : PlacedIn lo hi nodes) : PlacedIn lo hi siblings := by
  induction h generalizing lo hi with
  | here nodes => exact hp
  | inside nodes siblings n mem kind more ih =>
    have hn := hp.of_mem n mem
    have hbounds := hn.bounds
    exact (ih n.start n.stop hn.children).within lo hi hbounds.1 hbounds.2.2

section

variable (text : List Char) (nodes : List Node) (h : PlacedIn 0 text.length nodes)

theorem TextRun.stop_fragment (run : TextRun) (hr : run.Within 0 text.length) :
    (run.fragment (.ofText text)).stop = (Page.ofText text).byteAt run.stop :=
  Page.byteAt_add text _ _ hr.order (by rw [Page.size_ofText]; exact hr.stop)

theorem TextRun.covers (run : TextRun) (hr : run.Within 0 text.length) (n : Node)
    (hn : n ∈ run.texts) : (run.fragment (.ofText text)).Covers (.ofText text) n := by
  obtain ⟨hfirst, horder, hstop⟩ := hr.texts n hn
  have hend := hr.stop
  have hsize := Page.size_ofText text
  refine ⟨rfl, Page.byteAt_le text _ _ hfirst (by omega), ?_⟩
  rw [stop_fragment text run hr]
  exact Page.byteAt_le text _ _ hstop (by omega)

theorem filter_isText_fragments : (fragmentsOf (items (.ofText text) 0 none nodes)).filter
    Fragment.isText = (runsIn 0 none nodes).map (·.fragment (.ofText text)) :=
  filter_isText_items _ 0 none (by rintro _ ⟨⟩) nodes

theorem exists_run_of_fragment (f : Fragment)
    (hf : f ∈ fragmentsOf (items (.ofText text) 0 none nodes)) (hk : f.isText = true) :
    ∃ run, RunIn 0 nodes run ∧ f = run.fragment (.ofText text) := by
  have hmem := List.mem_filter.mpr ⟨hf, hk⟩
  rw [filter_isText_fragments] at hmem
  obtain ⟨run, hrun, heq⟩ := List.mem_map.mp hmem
  exact ⟨run, (mem_runsIn_iff 0 nodes run).mp hrun, heq.symm⟩

theorem fragment_mem (run : TextRun) (hr : run ∈ runsIn 0 none nodes) :
    run.fragment (.ofText text) ∈ fragmentsOf (items (.ofText text) 0 none nodes) := by
  have hmem := List.mem_map_of_mem (f := fun run => run.fragment (.ofText text)) hr
  rw [← filter_isText_fragments] at hmem
  exact List.mem_of_mem_filter hmem

include h

theorem RunIn.within_text (run : TextRun) (hr : RunIn 0 nodes run) : run.Within 0 text.length :=
  hr.within 0 nodes run 0 _ h (Nat.le_refl 0)

theorem exists_covers (siblings before texts behind : List Node) (hr : Reaches nodes siblings)
    (hs : siblings = before ++ texts ++ behind) (hne : texts ≠ []) (hall : ∀ n ∈ texts, n.IsText) :
    ∃ f ∈ fragmentsOf (items (.ofText text) 0 none nodes), ∀ n ∈ texts,
      f.Covers (.ofText text) n := by
  obtain ⟨front, hsubset⟩ := hr.exists_subset nodes siblings 0
  obtain ⟨run, hrun, hblock⟩ := exists_run_of_block front none before texts behind hne hall
  rw [← hs] at hrun
  have hmem := hsubset hrun
  have hwithin := RunIn.within_text text nodes h run ((mem_runsIn_iff 0 nodes run).mp hmem)
  refine ⟨_, fragment_mem text nodes run hmem, ?_⟩
  intro n hn
  exact run.covers text hwithin n (hblock.subset hn)

theorem orderedIn_nodes : OrderedIn 0 ((Page.ofText text).byteAt (Page.ofText text).size)
    (fragmentsOf (items (.ofText text) 0 none nodes)) := by
  have hsize := Page.size_ofText text
  rw [← hsize] at h
  have hitems := orderedIn_items text 0 none 0 _ nodes h (Nat.le_refl _) (Nat.le_refl _)
    (by rintro _ ⟨⟩)
  exact hitems.within _ _ (Nat.zero_le _) (Nat.le_refl _)

theorem countP_covers (siblings : List Node) (hr : Reaches nodes siblings) (n : Node)
    (hn : n ∈ siblings) (hk : n.IsText) (hlt : n.start < n.stop) :
    (fragmentsOf (items (.ofText text) 0 none nodes)).countP
      (fun f => decide (f.Covers (.ofText text) n)) = 1 := by
  refine countP_eq_one _ _ ?_ ?_
  · obtain ⟨before, behind, hs⟩ := List.append_of_mem hn
    rw [List.append_cons] at hs
    obtain ⟨f, hf, hcovers⟩ := exists_covers text nodes h siblings before [n] behind hr hs
      (List.cons_ne_nil _ _) fun m hm => List.mem_singleton.mp hm ▸ hk
    exact ⟨f, hf, decide_eq_true (hcovers n (List.mem_singleton.mpr rfl))⟩
  · -- Two that are disjoint cannot both reach over what is not empty.
    have hplaced := (hr.placed nodes siblings 0 _ h).of_mem n hn
    have hbytes := Page.byteAt_lt text n.start n.stop hlt hplaced.bounds.2.2
    refine (orderedIn_nodes text nodes h).pairwise.imp ?_
    intro f g hfg hf
    have hcovers := of_decide_eq_true hf
    refine decide_eq_false ?_
    intro hg
    have hstop := hcovers.2.2
    have hstart := hg.2.1
    omega

theorem clear_of_isText (m : Node) (hm : InTree nodes m) (hk : m.IsBare) (f : Fragment)
    (hf : f ∈ fragmentsOf (items (.ofText text) 0 none nodes)) (ht : f.isText = true) :
    f.stop ≤ (Page.ofText text).byteAt m.start ∨ (Page.ofText text).byteAt m.stop ≤ f.start := by
  obtain ⟨run, hrun, rfl⟩ := exists_run_of_fragment text nodes f hf ht
  have hwithin := RunIn.within_text text nodes h run hrun
  have hbounds := (hm.placed 0 _ h).bounds
  have horder := hwithin.order
  have hstop := hwithin.stop
  have hsize := Page.size_ofText text
  rw [run.stop_fragment text hwithin]
  rcases hrun.apart 0 nodes run m hm hk 0 _ h (Nat.le_refl 0) with hle | hle
  · exact .inl (Page.byteAt_le text _ _ hle (by omega))
  · exact .inr (Page.byteAt_le text _ _ hle (by omega))

/-- However nodes lie in a page, errors in errors included: reading them keeps the text. -/
theorem keepsText : KeepsText (.ofText text) nodes where
  cuts := by
    have hsize := Page.size_ofText text
    exact items?_eq _ 0 none 0 _ nodes h (by omega) (Nat.le_refl 0) (by rintro _ ⟨⟩)
  runs := by
    refine ⟨runsIn 0 none nodes, filter_isText_fragments text nodes, flatMap_runsIn 0 none nodes,
      mem_runsIn_iff 0 nodes, ?_⟩
    intro run hrun n hn
    have hwithin := RunIn.within_text text nodes h run ((mem_runsIn_iff 0 nodes run).mp hrun)
    exact run.covers text hwithin n hn
  together := by
    intro siblings hr before texts behind hs hne hall
    exact exists_covers text nodes h siblings before texts behind hr hs hne hall
  once := countP_covers text nodes h
  ordered := (orderedIn_nodes text nodes h).pairwise
  inside := by
    intro f hf
    exact ⟨f.start_le_stop, (orderedIn_nodes text nodes h).stop_le f hf⟩
  clear := clear_of_isText text nodes h

end

/-- Text in an error that is itself in one, and an entity behind it. -/
def nestedErrors : List Node :=
  [⟨.text, 0, 1, []⟩,
    ⟨.error, 1, 11,
      [⟨.error, 1, 6, [⟨.strayTag, 1, 5, []⟩, ⟨.text, 5, 6, []⟩]⟩, ⟨.entity, 6, 11, []⟩]⟩]

theorem keepsText_nestedErrors :
    PlacedIn 0 "x</i>y&amp;".toList.length nestedErrors ∧
    KeepsText (.ofText "x</i>y&amp;".toList) nestedErrors ∧
    fragmentsOf (items (.ofText "x</i>y&amp;".toList) 0 none nestedErrors) =
      [.text 0 ['x'], .text 5 ['y'], .text 6 "&amp;".toList] := by
  have hplaced : PlacedIn 0 "x</i>y&amp;".toList.length nestedErrors := by
    simp [nestedErrors, PlacedIn, Node.Placed]
  exact ⟨hplaced, keepsText _ _ hplaced, by decide⟩

end Glean.Markup
