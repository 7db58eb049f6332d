import Glean.Markup.Document
import Glean.Proofs.SoundReading

set_option autoImplicit false

/-!
# Nodes in order

Nodes are placed if siblings are disjoint and in order inside their parent and every element begins
with its tag. The nodes of every page are.
-/
namespace Glean.Markup

mutual

def Node.Placed (lo hi : Nat) : Node → Prop
  | ⟨kind, start, stop, children⟩ =>
    lo ≤ start ∧ start ≤ stop ∧ stop ≤ hi ∧ PlacedIn start stop children ∧
      (kind = .element → (Node.mk kind start stop children).opening? = children.head?)

def PlacedIn (lo hi : Nat) : List Node → Prop
  | [] => lo ≤ hi
  | n :: rest => n.Placed lo hi ∧ PlacedIn n.stop hi rest

end

namespace Node.Placed

variable {n : Node} {lo hi : Nat}

theorem iff : n.Placed lo hi ↔ lo ≤ n.start ∧ n.start ≤ n.stop ∧ n.stop ≤ hi ∧
    PlacedIn n.start n.stop n.children ∧ (n.kind = .element → n.opening? = n.children.head?) := by
  obtain ⟨kind, start, stop, children⟩ := n
  rw [Node.Placed]

theorem bounds (h : n.Placed lo hi) : lo ≤ n.start ∧ n.start ≤ n.stop ∧ n.stop ≤ hi := by
  rw [iff] at h
  exact ⟨h.1, h.2.1, h.2.2.1⟩

theorem children (h : n.Placed lo hi) : PlacedIn n.start n.stop n.children := by
  rw [iff] at h
  exact h.2.2.2.1

theorem opening (h : n.Placed lo hi) (hk : n.kind = .element) :
    n.opening? = n.children.head? := by
  rw [iff] at h
  exact h.2.2.2.2 hk

theorem within (h : n.Placed lo hi) (a b : Nat) (ha : a ≤ n.start) (hb : n.stop ≤ b) :
    n.Placed a b := by
  rw [iff] at h ⊢
  exact ⟨ha, h.2.1, hb, h.2.2.2⟩

end Node.Placed

theorem PlacedIn.le {nodes : List Node} {lo hi : Nat} (h : PlacedIn lo hi nodes) : lo ≤ hi := by
  induction nodes generalizing lo with
  | nil =>
    unfold PlacedIn at h
    exact h
  | cons n nodes ih =>
    unfold PlacedIn at h
    have := h.1.bounds
    have := ih h.2
    omega

theorem PlacedIn.append {front back : List Node} {lo mid hi : Nat} (h : PlacedIn lo mid front)
    (k : PlacedIn mid hi back) : PlacedIn lo hi (front ++ back) := by
  induction front generalizing lo with
  | nil =>
    unfold PlacedIn at h
    rw [List.nil_append]
    cases back with
    | nil =>
      unfold PlacedIn at k ⊢
      omega
    | cons n back =>
      unfold PlacedIn at k ⊢
      have := k.1.bounds
      exact ⟨k.1.within lo hi (by omega) (by omega), k.2⟩
  | cons n front ih =>
    unfold PlacedIn at h
    rw [List.cons_append, PlacedIn]
    have := k.le
    have := h.1.bounds
    exact ⟨h.1.within lo hi (by omega) (by omega), ih h.2⟩

theorem PlacedIn.within {nodes : List Node} {lo hi : Nat} (h : PlacedIn lo hi nodes) (a b : Nat)
    (ha : a ≤ lo) (hb : hi ≤ b) : PlacedIn a b nodes := by
  have hback : PlacedIn hi b [] := by
    unfold PlacedIn
    exact hb
  have hfront : PlacedIn a lo [] := by
    unfold PlacedIn
    exact ha
  have hall := hfront.append (h.append hback)
  rwa [List.append_nil, List.nil_append] at hall

theorem PlacedIn.of_mem {nodes : List Node} {lo hi : Nat} (h : PlacedIn lo hi nodes) (n : Node)
    (hn : n ∈ nodes) : n.Placed lo hi := by
  induction nodes generalizing lo with
  | nil => contradiction
  | cons m nodes ih =>
    unfold PlacedIn at h
    rcases List.mem_cons.mp hn with rfl | hn
    · exact h.1
    · have hm := h.1.bounds
      have hlater := ih h.2 hn
      exact hlater.within lo hi (by have := hlater.bounds; omega) hlater.bounds.2.2

/-! ### Laying out -/

/-- A tree is laid out behind a place, and its nodes in front of those that there are. -/
structure Laid.Behind (i limit : Nat) (before : List Node) (r : Laid) : Prop where
  start : i ≤ r.start
  order : r.start ≤ r.stop
  stop : r.stop ≤ limit
  nodes : ∃ nodes, r.nodes = nodes.reverse ++ before ∧ PlacedIn r.start r.stop nodes

def Tree.LaysOut (t : Tree) : Prop :=
  ∀ limit parent i before, i ≤ limit → (t.layOut limit parent i before).Behind i limit before

theorem behind_layOutAll (limit : Nat) (parent : Sym) (ts : List Tree) (hts : ∀ t ∈ ts, t.LaysOut)
    (i : Nat) (before : List Node) (hi : i ≤ limit) :
    (layOutAll limit parent ts i before).Behind i limit before := by
  induction ts generalizing i before with
  | nil =>
    refine ⟨Nat.le_refl i, Nat.le_refl i, hi, [], rfl, ?_⟩
    unfold PlacedIn
    exact Nat.le_refl i
  | cons t ts ih =>
    have hfirst := hts t List.mem_cons_self limit parent i before hi
    have hrest := ih (fun u hu => hts u (List.mem_cons_of_mem t hu))
      (t.layOut limit parent i before).stop (t.layOut limit parent i before).nodes hfirst.stop
    obtain ⟨front, hfront, hplacedFront⟩ := hfirst.nodes
    obtain ⟨back, hback, hplacedBack⟩ := hrest.nodes
    rw [layOutAll]
    refine ⟨hfirst.start, ?_, hrest.stop, front ++ back, ?_, ?_⟩
    · exact Nat.le_trans hfirst.order (Nat.le_trans hrest.start hrest.order)
    · dsimp only
      rw [hback, hfront, List.reverse_append, List.append_assoc]
    · exact hplacedFront.append (hplacedBack.within _ _ hrest.start (Nat.le_refl _))

/-- A tag is a node of its own. -/
theorem exists_layOut_tag (t : Tree) (kind : Kind) (limit : Nat) (parent : Sym) (i : Nat)
    (before : List Node) (ht : t.sym.alias? = none) (hk : t.sym.kind? = some kind) :
    ∃ n : Node, n.kind = kind ∧ (t.layOut limit parent i before).nodes = n :: before := by
  obtain ⟨sym, pad, start, stop, children, cost, shownBelow, shownChildren, extra, tags⟩ := t
  dsimp only at ht hk
  have hkind : (if (!parent.isFault && !extra) = true then sym.alias? else none).or sym.kind? =
      some kind := by
    rw [ht, hk]
    simp
  unfold Tree.layOut
  dsimp only
  rw [hkind]
  cases children with
  | nil => exact ⟨_, rfl, rfl⟩
  | cons c cs => exact ⟨_, rfl, rfl⟩

theorem opening?_of_startTag (n tag : Node) (rest : List Node) (h : n.children = tag :: rest)
    (hk : tag.kind = .startTag) : n.opening? = n.children.head? := by
  simp [Node.opening?, Node.child?, h, hk]

theorem opening?_of_selfClosing (n tag : Node) (h : n.children = [tag])
    (hk : tag.kind = .selfClosingTag) : n.opening? = n.children.head? := by
  simp [Node.opening?, Node.child?, h, hk]

theorem sym_of_kind (sym : Sym) (isAliased : Bool)
    (h : (if isAliased = true then sym.alias? else none).or sym.kind? = some .element) :
    sym = .element := by
  cases isAliased <;> cases sym <;> first
    | rfl
    | contradiction
    | (rename_i k; cases k <;> contradiction)

theorem placedIn_singleton (kind : Kind) (a b : Nat) (children : List Node) (hle : a ≤ b)
    (hchildren : PlacedIn a b children)
    (hopening : kind = .element → (Node.mk kind a b children).opening? = children.head?) :
    PlacedIn a b [⟨kind, a, b, children⟩] := by
  rw [PlacedIn, PlacedIn, Node.Placed]
  exact ⟨⟨Nat.le_refl a, hle, Nat.le_refl b, hchildren, hopening⟩, Nat.le_refl b⟩

/-- The nodes of an element begin with its tag, and this is the one that its attributes are of. -/
theorem opening?_layOutAll (limit : Nat) (parent : Sym) (tag : Tree) (rest : List Tree) (i : Nat)
    (hi : i ≤ limit) (hall : ∀ t ∈ tag :: rest, t.LaysOut)
    (h : tag.sym = .startTag ∨ (tag.sym = .selfClosingTag ∧ rest = [])) (n : Node)
    (hn : n.children = (layOutAll limit parent (tag :: rest) i []).nodes.reverse) :
    n.opening? = n.children.head? := by
  rw [layOutAll] at hn
  dsimp only at hn
  rcases h with htag | ⟨htag, rfl⟩
  · obtain ⟨first, hk, hfirst⟩ := exists_layOut_tag tag .startTag limit parent i []
      (by rw [htag]; rfl) (by rw [htag]; rfl)
    have hrest := behind_layOutAll limit parent rest
      (fun u hu => hall u (List.mem_cons_of_mem tag hu))
      (tag.layOut limit parent i []).stop (tag.layOut limit parent i []).nodes
      (hall tag List.mem_cons_self limit parent i [] hi).stop
    obtain ⟨others, hothers, -⟩ := hrest.nodes
    rw [hothers, hfirst] at hn
    have hn : n.children = first :: others := by simpa using hn
    exact opening?_of_startTag n first others hn hk
  -- Of two opening tags the start tag is taken, so a self-closing tag has to be alone.
  · obtain ⟨only, hk, honly⟩ := exists_layOut_tag tag .selfClosingTag limit parent i []
      (by rw [htag]; rfl) (by rw [htag]; rfl)
    rw [layOutAll, honly] at hn
    exact opening?_of_selfClosing n only hn hk

theorem Tree.Sound.laysOut {t : Tree} (h : t.Sound) : t.LaysOut := by
  induction h with
  | intro t lies opens below ih =>
    intro limit parent i before hi
    obtain ⟨sym, pad, start, stop, children, cost, shownBelow, shownChildren, extra, tags⟩ := t
    dsimp only at lies opens ih
    unfold Tree.layOut
    dsimp only
    generalize hkind : (if (!parent.isFault && !extra) = true then sym.alias? else none).or
      sym.kind? = kind
    cases children with
    | nil =>
      have hle := lies rfl
      cases kind with
      | none =>
        refine ⟨by dsimp only; omega, by dsimp only; omega, by dsimp only; omega, [], rfl, ?_⟩
        unfold PlacedIn
        dsimp only
        omega
      | some kind =>
        refine ⟨by dsimp only; omega, by dsimp only; omega, by dsimp only; omega, [_], rfl, ?_⟩
        refine placedIn_singleton kind _ _ [] (by dsimp only; omega) ?_ fun _ => rfl
        unfold PlacedIn
        dsimp only
        omega
    | cons c cs =>
      have hall := behind_layOutAll limit sym (c :: cs) ih i
      cases kind with
      | none => exact hall before hi
      | some kind =>
        obtain ⟨start, order, stop, nodes, hnodes, hplaced⟩ := hall [] hi
        refine ⟨start, order, stop, [_], rfl, placedIn_singleton kind _ _ _ order ?_ ?_⟩
        · rw [hnodes, List.append_nil, List.reverse_reverse]
          exact hplaced
        · rintro rfl
          exact opening?_layOutAll limit sym c cs i hi ih
            (opens (sym_of_kind sym _ hkind) c cs rfl) _ rfl

/-- The nodes of a page are in order, and its elements begin with their tags. -/
theorem Page.placedIn_nodes (s : Page) : PlacedIn 0 s.size s.nodes := by
  have hall := behind_layOutAll s.size s.tree.sym s.tree.children
    (fun t ht => (s.sound_tree t ht).laysOut) 0 [] (Nat.zero_le _)
  obtain ⟨nodes, hnodes, hplaced⟩ := hall.nodes
  unfold Page.nodes
  dsimp only
  rw [hnodes, List.append_nil, List.reverse_reverse]
  exact hplaced.within _ _ (Nat.zero_le _) hall.stop

end Glean.Markup
