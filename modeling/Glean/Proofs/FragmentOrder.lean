import Glean.Markup.Fragment
import Glean.Proofs.NodeOrder
import Glean.Proofs.PageScripts

set_option autoImplicit false

/-!
# Fragments in order

Runs of text, the values of attributes and scripts each reach over a stretch of the page. These are
disjoint, and what is read of a page is read from its start to its end.
-/
namespace Glean.Markup

namespace Page

variable (text : List Char)

theorem size_ofText : (ofText text).size = text.length := List.size_toArray

theorem byteAt_add (i j : Nat) (hi : i ≤ j) (hj : j ≤ (ofText text).size) :
    (ofText text).byteAt i + byteSize ((ofText text).text i j) = (ofText text).byteAt j := by
  rw [size_ofText] at hj
  rw [byteAt_ofText text i (by omega), byteAt_ofText text j hj, text_ofText, ← byteSize_append]
  have htake : (text.take j).take i = text.take i := by
    rw [List.take_take, Nat.min_eq_left hi]
  rw [← htake, List.take_append_drop]

theorem byteAt_le (i j : Nat) (hi : i ≤ j) (hj : j ≤ (ofText text).size) :
    (ofText text).byteAt i ≤ (ofText text).byteAt j := by
  have := byteAt_add text i j hi hj
  omega

theorem byteAt_lt (i j : Nat) (hi : i < j) (hj : j ≤ text.length) :
    (ofText text).byteAt i < (ofText text).byteAt j := by
  have hadd := byteAt_add text i j (Nat.le_of_lt hi) (by rw [size_ofText]; exact hj)
  have hpos : 0 < byteSize ((ofText text).text i j) := by
    rw [text_ofText]
    cases hdrop : (text.take j).drop i with
    | nil =>
      have hlength := congrArg List.length hdrop
      rw [List.length_drop, List.length_take, List.length_nil] at hlength
      omega
    | cons c rest =>
      have := c.utf8Size_pos
      rw [byteSize]
      omega
  omega

end Page

/-- The first byte whose line is told. -/
def Fragment.start : Fragment → Nat
  | .value v => v.start
  | .text start _ => start
  | .script start _ _ => start

/-- The end of what is read. No line is told of what is behind it. -/
def Fragment.stop : Fragment → Nat
  | .value v => v.start + byteSize v.content
  | .text start content => start + byteSize content
  | .script start _ content => start + byteSize content

def OrderedIn (lo hi : Nat) : List Fragment → Prop
  | [] => lo ≤ hi
  | f :: fragments => lo ≤ f.start ∧ OrderedIn f.stop hi fragments

theorem Fragment.start_le_stop (f : Fragment) : f.start ≤ f.stop := by
  cases f with
  | value v => exact Nat.le_add_right _ _
  | text start content => exact Nat.le_add_right _ _
  | script start language content => exact Nat.le_add_right _ _

theorem OrderedIn.le {fs : List Fragment} {lo hi : Nat} (h : OrderedIn lo hi fs) : lo ≤ hi := by
  induction fs generalizing lo with
  | nil => exact h
  | cons f fs ih =>
    have := f.start_le_stop
    have := ih h.2
    exact Nat.le_trans h.1 (by omega)

theorem OrderedIn.within {fs : List Fragment} {lo hi : Nat} (h : OrderedIn lo hi fs) (a b : Nat)
    (ha : a ≤ lo) (hb : hi ≤ b) : OrderedIn a b fs := by
  induction fs generalizing lo a with
  | nil =>
    unfold OrderedIn at h ⊢
    omega
  | cons f fs ih =>
    unfold OrderedIn at h ⊢
    exact ⟨by omega, ih h.2 f.stop (Nat.le_refl _)⟩

theorem OrderedIn.append {front back : List Fragment} {lo mid hi : Nat}
    (h : OrderedIn lo mid front) (k : OrderedIn mid hi back) : OrderedIn lo hi (front ++ back) := by
  induction front generalizing lo with
  | nil => exact k.within lo hi h (Nat.le_refl _)
  | cons f front ih => exact ⟨h.1, ih h.2⟩

theorem OrderedIn.start_ge {fs : List Fragment} {lo hi : Nat} (h : OrderedIn lo hi fs)
    (f : Fragment) (hf : f ∈ fs) : lo ≤ f.start := by
  induction fs generalizing lo with
  | nil => contradiction
  | cons g fs ih =>
    obtain ⟨hlo, hrest⟩ := h
    rcases List.mem_cons.mp hf with rfl | hf
    · exact hlo
    · exact Nat.le_trans hlo (Nat.le_trans g.start_le_stop (ih hrest hf))

theorem OrderedIn.stop_le {fs : List Fragment} {lo hi : Nat} (h : OrderedIn lo hi fs)
    (f : Fragment) (hf : f ∈ fs) : f.stop ≤ hi := by
  induction fs generalizing lo with
  | nil => contradiction
  | cons g fs ih =>
    obtain ⟨-, hrest⟩ := h
    rcases List.mem_cons.mp hf with rfl | hf
    · exact hrest.le
    · exact ih hrest hf

theorem OrderedIn.pairwise {fs : List Fragment} {lo hi : Nat} (h : OrderedIn lo hi fs) :
    fs.Pairwise fun f g => f.stop ≤ g.start := by
  induction fs generalizing lo with
  | nil => exact .nil
  | cons f fs ih => exact .cons (h.2.start_ge) (ih h.2)

section

variable (text : List Char)

theorem Node.child?_eq_some (n w : Node) (kind : Kind) (h : n.child? kind = some w) :
    w ∈ n.children ∧ w.kind = kind := by
  unfold Node.child? at h
  have hk := List.find?_some h
  exact ⟨List.mem_of_find?_eq_some h, of_decide_eq_true hk⟩

theorem Node.opening?_eq_some (n tag : Node) (h : n.opening? = some tag) :
    tag ∈ n.children ∧ (tag.kind = .startTag ∨ tag.kind = .selfClosingTag) := by
  unfold Node.opening? at h
  rcases Option.or_eq_some_iff.mp h with h | ⟨-, h⟩
  · obtain ⟨hmem, hk⟩ := n.child?_eq_some tag _ h
    exact ⟨hmem, .inl hk⟩
  · obtain ⟨hmem, hk⟩ := n.child?_eq_some tag _ h
    exact ⟨hmem, .inr hk⟩

theorem Node.child_placed (n w : Node) (kind : Kind) (lo hi : Nat) (h : n.Placed lo hi)
    (hw : n.child? kind = some w) : w.Placed n.start n.stop :=
  h.children.of_mem w (n.child?_eq_some w kind hw).1

theorem Node.opening_placed (n tag : Node) (lo hi : Nat) (h : n.Placed lo hi)
    (htag : n.opening? = some tag) : tag.Placed n.start n.stop :=
  h.children.of_mem tag (n.opening?_eq_some tag htag).1

theorem Node.valueNode_placed (n w : Node) (lo hi : Nat) (h : n.Placed lo hi)
    (hw : (n.child? .attributeValue).or
      ((n.child? .quotedValue).bind (·.child? .attributeValue)) = some w) :
    w.Placed n.start n.stop := by
  rcases Option.or_eq_some_iff.mp hw with hw | ⟨-, hw⟩
  · exact n.child_placed w _ lo hi h hw
  · obtain ⟨q, hq, hw⟩ := Option.bind_eq_some_iff.mp hw
    have hq := n.child_placed q _ lo hi h hq
    have hw := q.child_placed w _ _ _ hq hw
    have := hq.bounds
    have := hw.bounds
    exact hw.within _ _ (by omega) (by omega)

/-- The value of an attribute is the text of a node in it. -/
theorem Node.value_placed (s : Page) (n : Node) (v : Value) (lo hi : Nat) (h : n.Placed lo hi)
    (hv : n.value? s = some v) :
    ∃ w : Node, v = ⟨w.text s, s.byteAt w.start⟩ ∧ w.Placed n.start n.stop := by
  unfold Node.value? at hv
  obtain ⟨w, hw, rfl⟩ := Option.map_eq_some_iff.mp hv
  exact ⟨w, rfl, n.valueNode_placed w lo hi h hw⟩

theorem Node.filterMap_attributes (s : Page) (n : Node) :
    (n.attributes s).filterMap (·.value) =
      (n.children.filter (·.kind = .attr)).filterMap (·.value? s) := by
  rw [attributes, List.filterMap_map]
  rfl

theorem orderedIn_values (nodes : List Node) (lo hi : Nat) (h : PlacedIn lo hi nodes)
    (hs : hi ≤ (Page.ofText text).size) :
    OrderedIn ((Page.ofText text).byteAt lo) ((Page.ofText text).byteAt hi)
      (((nodes.filter (·.kind = .attr)).filterMap (·.value? (.ofText text))).map .value) := by
  induction nodes generalizing lo with
  | nil =>
    unfold PlacedIn at h
    exact Page.byteAt_le text lo hi h hs
  | cons n nodes ih =>
    unfold PlacedIn at h
    obtain ⟨hn, hrest⟩ := h
    have hbounds := hn.bounds
    have hall := ih n.stop hrest
    have hskip := hall.within ((Page.ofText text).byteAt lo) _
      (Page.byteAt_le text lo n.stop (by omega) (by omega)) (Nat.le_refl _)
    by_cases hk : n.kind = .attr
    · rw [List.filter_cons_of_pos (by simpa using hk)]
      cases hv : n.value? (.ofText text) with
      | none =>
        rw [List.filterMap_cons_none hv]
        exact hskip
      | some v =>
        rw [List.filterMap_cons_some hv, List.map_cons]
        obtain ⟨w, rfl, hw⟩ := n.value_placed _ v _ _ hn hv
        have hinner := hw.bounds
        refine ⟨Page.byteAt_le text lo w.start (by omega) (by omega), ?_⟩
        refine hall.within _ _ ?_ (Nat.le_refl _)
        change (Page.ofText text).byteAt w.start + byteSize (w.text (.ofText text)) ≤ _
        rw [Node.text, Page.byteAt_add text _ _ hinner.2.1 (by omega)]
        exact Page.byteAt_le text w.stop n.stop hinner.2.2 (by omega)
    · rw [List.filter_cons_of_neg (by simpa using hk)]
      exact hskip

/-- A script begins and ends inside its element. -/
theorem Node.script_placed (n : Node) (lo hi : Nat) (h : n.Placed lo hi) :
    n.start ≤ (n.opening?.map (·.stop)).getD n.start ∧
      max ((n.opening?.map (·.stop)).getD n.start)
        (((n.child? .endTag).map (·.start)).getD n.stop) ≤ n.stop := by
  have hbounds := h.bounds
  have hstart : n.start ≤ (n.opening?.map (·.stop)).getD n.start ∧
      (n.opening?.map (·.stop)).getD n.start ≤ n.stop := by
    cases htag : n.opening? with
    | none => exact ⟨Nat.le_refl _, hbounds.2.1⟩
    | some tag =>
      have := (n.opening_placed tag lo hi h htag).bounds
      exact ⟨by change n.start ≤ tag.stop; omega, this.2.2⟩
  have hstop : ((n.child? .endTag).map (·.start)).getD n.stop ≤ n.stop := by
    cases hend : n.child? .endTag with
    | none => exact Nat.le_refl _
    | some tag =>
      have := (n.child_placed tag _ lo hi h hend).bounds
      change tag.start ≤ n.stop
      omega
  exact ⟨hstart.1, Nat.max_le.mpr ⟨hstart.2, hstop⟩⟩

theorem orderedIn_script (n : Node) (lo hi : Nat) (h : n.Placed lo hi)
    (hs : hi ≤ (Page.ofText text).size) :
    OrderedIn ((Page.ofText text).byteAt n.start) ((Page.ofText text).byteAt n.stop)
      (fragmentsOf [n.script (.ofText text)]) := by
  have hbounds := h.bounds
  obtain ⟨hstart, hstop⟩ := n.script_placed lo hi h
  have hmax := Nat.le_max_left ((n.opening?.map (·.stop)).getD n.start)
    (((n.child? .endTag).map (·.start)).getD n.stop)
  have hadd := Page.byteAt_add text _ _ hmax (by omega)
  refine ⟨Page.byteAt_le text _ _ hstart (by omega), ?_⟩
  change (Page.ofText text).byteAt _ + byteSize ((Page.ofText text).text _ _) ≤ _
  rw [hadd]
  exact Page.byteAt_le text _ _ hstop (by omega)

theorem orderedIn_run (run : Option Nat) (last hi : Nat)
    (hrun : ∀ start, run = some start → start ≤ last) (hl : last ≤ hi)
    (hs : hi ≤ (Page.ofText text).size) :
    OrderedIn ((Page.ofText text).byteAt (run.getD last)) ((Page.ofText text).byteAt hi)
      (fragmentsOf ((Page.ofText text).run last run)) := by
  cases run with
  | none => exact Page.byteAt_le text last hi hl hs
  | some start =>
    have hadd := Page.byteAt_add text start last (hrun start rfl) (by omega)
    refine ⟨Nat.le_refl _, ?_⟩
    change (Page.ofText text).byteAt start + byteSize ((Page.ofText text).text start last) ≤ _
    rw [hadd]
    exact Page.byteAt_le text last hi hl hs

/-- A tag gives nothing by itself: what is read of it is read with its element. -/
theorem items_tag (s : Page) (last : Nat) (tag : Node) (rest : List Node)
    (hk : tag.kind = .startTag ∨ tag.kind = .selfClosingTag) :
    items s last none (tag :: rest) = items s tag.stop none rest := by
  obtain ⟨kind, start, stop, children⟩ := tag
  rcases hk with hk | hk
  · cases hk
    rw [items, if_neg (by simp)]
    unfold Node.items
    rfl
  · cases hk
    rw [items, if_neg (by simp)]
    unfold Node.items
    rfl

mutual

theorem Node.orderedIn_items (last lo hi : Nat) : (n : Node) → n.Placed lo hi →
    hi ≤ (Page.ofText text).size → last ≤ n.start →
    OrderedIn ((Page.ofText text).byteAt last) ((Page.ofText text).byteAt n.stop)
      (fragmentsOf (n.items (.ofText text) last))
  | ⟨kind, start, stop, children⟩, h, hs, hlast => by
    have hbounds := h.bounds
    have hchildren := h.children
    dsimp only at hlast hbounds hchildren ⊢
    have hfront := Page.byteAt_le text last start hlast (by omega)
    have hnone := Page.byteAt_le text last stop (by omega) (by omega)
    have hwhole := orderedIn_items last none start stop children hchildren (by omega) hlast nofun
    unfold Node.items
    dsimp only
    split
    · rw [fragmentsOf, fragmentsOf, List.append_nil, Item.fragments]
      have hopening := h.opening rfl
      cases children with
      | nil =>
        have hinner := orderedIn_items start none start stop [] hchildren (by omega)
          (Nat.le_refl _) nofun
        rw [hopening]
        exact hinner.within _ _ hfront (Nat.le_refl _)
      | cons tag rest =>
        -- The tag is in front of everything else in the element, and so are its attributes.
        have htag := Node.opening_placed _ tag lo hi h hopening
        obtain ⟨-, hk⟩ := Node.opening?_eq_some _ tag hopening
        have hinTag := htag.bounds
        dsimp only at hinTag
        unfold PlacedIn at hchildren
        rw [hopening, items_tag _ _ _ _ hk]
        change OrderedIn _ _ (((tag.attributes (.ofText text)).filterMap (·.value)).map .value ++ _)
        rw [tag.filterMap_attributes]
        have hvalues := orderedIn_values text tag.children _ _ htag.children (by omega)
        have hinner := orderedIn_items tag.stop none tag.stop stop rest hchildren.2 (by omega)
          (Nat.le_refl _) nofun
        have hbegin := Page.byteAt_le text last tag.start (by omega) (by omega)
        exact (hvalues.append hinner).within _ _ hbegin (Nat.le_refl _)
    · have hscript := orderedIn_script text _ lo hi h hs
      exact hscript.within _ _ hfront (Nat.le_refl _)
    · exact hnone
    · exact hnone
    · exact hwhole
    · exact hnone

theorem orderedIn_items (last : Nat) (run : Option Nat) (lo hi : Nat) : (nodes : List Node) →
    PlacedIn lo hi nodes → hi ≤ (Page.ofText text).size → last ≤ lo →
    (∀ start, run = some start → start ≤ last) →
    OrderedIn ((Page.ofText text).byteAt (run.getD last)) ((Page.ofText text).byteAt hi)
      (fragmentsOf (items (.ofText text) last run nodes))
  | [], h, hs, hlast, hrun => by
    unfold PlacedIn at h
    rw [items]
    exact orderedIn_run text run last hi hrun (by omega) hs
  | n :: rest, h, hs, hlast, hrun => by
    unfold PlacedIn at h
    obtain ⟨hn, hrest⟩ := h
    have hbounds := hn.bounds
    rw [items]
    split
    · have hmore := orderedIn_items n.stop (run.or (some last)) n.stop hi rest hrest hs
        (Nat.le_refl _) (by
          intro start hstart
          cases run with
          | none =>
            cases hstart
            omega
          | some first =>
            cases hstart
            have := hrun start rfl
            omega)
      cases run with
      | none => exact hmore
      | some first => exact hmore
    · rw [fragmentsOf_append, fragmentsOf_append]
      have hfront := orderedIn_run text run last last hrun (Nat.le_refl _) (by omega)
      have hitems := Node.orderedIn_items last lo hi n hn hs (by omega)
      have hmore := orderedIn_items n.stop none n.stop hi rest hrest hs (Nat.le_refl _) nofun
      exact (hfront.append hitems).append hmore

end

/-- What is read of a page is read in order. -/
theorem orderedIn_fragmentsOf : OrderedIn 0 (byteSize text) (fragmentsOf (document text)) := by
  have hplaced := (Page.ofText text).placedIn_nodes
  have hitems := orderedIn_items text 0 none 0 _ _ hplaced (Nat.le_refl _) (Nat.le_refl _) nofun
  have hend : (Page.ofText text).byteAt (Page.ofText text).size = byteSize text := by
    rw [Page.size_ofText, Page.byteAt_ofText text _ (Nat.le_refl _), List.take_length]
  rw [hend] at hitems
  exact hitems.within _ _ (Nat.zero_le _) (Nat.le_refl _)

end

end Glean.Markup
