import Glean.Proofs.Lowering
import Glean.Proofs.Trimming

set_option autoImplicit false

/-!
# Where the records of markup come from

Every record of markup is a stretch of its page. The value of an attribute is told with the line of
its first byte, and a text with the line on which its run begins, which the white space in front of
it may put higher up.
-/
namespace Glean

/-- A text stands at a byte of another one. -/
def StandsAt (d : List Char) (o : Nat) (content : List Char) : Prop :=
  ∃ before behind, d = before ++ (content ++ behind) ∧ o = byteSize before

theorem StandsAt.of_append {d front back : List Char} {o : Nat} (h : StandsAt d o (front ++ back)) :
    StandsAt d o front ∧ StandsAt d (o + byteSize front) back := by
  obtain ⟨before, behind, rfl, rfl⟩ := h
  refine ⟨⟨before, back ++ behind, ?_, rfl⟩, ⟨before ++ front, behind, ?_, ?_⟩⟩
  · rw [List.append_assoc]
  · rw [List.append_assoc, List.append_assoc]
  · rw [byteSize_append]

namespace Markup

theorem Page.standsAt (d : List Char) (start stop : Nat) (h : (ofText d).text start stop ≠ []) :
    StandsAt d ((ofText d).byteAt start) ((ofText d).text start stop) :=
  Page.exists_stretch d start stop h

/-! ### The values of attributes -/

/-- A value is that of an attribute among some nodes or below them. -/
def IsValueIn (s : Page) (nodes : List Node) (v : Value) : Prop :=
  ∃ a, InTree nodes a ∧ a.kind = .attr ∧
    ∃ w, InTree a.children w ∧ w.kind = .attributeValue ∧ v = ⟨w.text s, s.byteAt w.start⟩

namespace IsValueIn

variable {s : Page} {v : Value}

theorem of_tree {nodes others : List Node} (h : IsValueIn s nodes v)
    (hsub : ∀ n, InTree nodes n → InTree others n) : IsValueIn s others v := by
  obtain ⟨a, ha, hv⟩ := h
  exact ⟨a, hsub a ha, hv⟩

theorem of_rest {n : Node} {rest : List Node} (h : IsValueIn s rest v) :
    IsValueIn s (n :: rest) v := by
  refine h.of_tree ?_
  intro m hm
  cases hm with
  | top _ m mem => exact .top _ m (List.mem_cons_of_mem n mem)
  | inside _ k m mem other tree => exact .inside _ k m (List.mem_cons_of_mem n mem) other tree

theorem of_children {n : Node} {rest : List Node} (h : IsValueIn s n.children v)
    (hn : ¬ n.IsText) : IsValueIn s (n :: rest) v :=
  h.of_tree fun m hm => .inside _ n m List.mem_cons_self hn hm

end IsValueIn

theorem Node.exists_of_value? (s : Page) (a : Node) (v : Value) (h : a.value? s = some v) :
    ∃ w, InTree a.children w ∧ w.kind = .attributeValue ∧ v = ⟨w.text s, s.byteAt w.start⟩ := by
  unfold Node.value? at h
  obtain ⟨w, hw, rfl⟩ := Option.map_eq_some_iff.mp h
  refine ⟨w, ?_⟩
  rcases Option.or_eq_some_iff.mp hw with hw | ⟨-, hw⟩
  · obtain ⟨hmem, hk⟩ := a.child?_eq_some w _ hw
    exact ⟨.top _ w hmem, hk, rfl⟩
  · obtain ⟨q, hq, hw⟩ := Option.bind_eq_some_iff.mp hw
    obtain ⟨hqmem, hqk⟩ := a.child?_eq_some q _ hq
    obtain ⟨hmem, hk⟩ := q.child?_eq_some w _ hw
    have hnot := q.not_isText_of_kind _ hqk (by decide)
    exact ⟨.inside _ q w hqmem hnot (.top _ w hmem), hk, rfl⟩

/-- The values that an element's tag gives. -/
theorem Node.isValueIn_of_mem (s : Page) (n : Node) (v : Value)
    (h : v ∈ ((n.opening?.map (·.attributes s)).getD []).filterMap (·.value)) :
    IsValueIn s n.children v := by
  cases htag : n.opening? with
  | none =>
    rw [htag] at h
    contradiction
  | some tag =>
    rw [htag] at h
    change v ∈ (tag.attributes s).filterMap (·.value) at h
    rw [tag.filterMap_attributes] at h
    obtain ⟨a, ha, hv⟩ := List.mem_filterMap.mp h
    obtain ⟨hmem, hk⟩ := List.mem_filter.mp ha
    have hattr : IsValueIn s tag.children v :=
      ⟨a, .top _ a hmem, of_decide_eq_true hk, a.exists_of_value? s v hv⟩
    obtain ⟨htagMem, htagKind⟩ := n.opening?_eq_some tag htag
    have hnot : ¬ tag.IsText := by
      rcases htagKind with hk | hk
      · exact tag.not_isText_of_kind _ hk (by decide)
      · exact tag.not_isText_of_kind _ hk (by decide)
    exact hattr.of_tree fun m hm => .inside _ tag m htagMem hnot hm

theorem value_not_mem_run (s : Page) (stop : Nat) (run : Option Nat) (v : Value) :
    Fragment.value v ∉ fragmentsOf (s.run stop run) := by
  cases run with
  | none => exact List.not_mem_nil
  | some start =>
    intro h
    cases List.mem_singleton.mp h

mutual

theorem Node.isValueIn_of_fragment (s : Page) (last : Nat) (v : Value) : (n : Node) →
    Fragment.value v ∈ fragmentsOf (n.items s last) → IsValueIn s n.children v
  | ⟨kind, start, stop, children⟩, h => by
    unfold Node.items at h
    dsimp only at h
    split at h
    · rw [fragmentsOf, fragmentsOf, List.append_nil, Item.fragments, List.mem_append] at h
      rcases h with h | h
      · obtain ⟨u, hu, huv⟩ := List.mem_map.mp h
        cases huv
        exact Node.isValueIn_of_mem s _ v hu
      · exact isValueIn_of_fragment s start none v children h
    · cases List.mem_singleton.mp h
    · contradiction
    · contradiction
    · exact isValueIn_of_fragment s last none v children h
    · contradiction

/-- The values that come up are values of attributes. -/
theorem isValueIn_of_fragment (s : Page) (last : Nat) (run : Option Nat) (v : Value) :
    (nodes : List Node) → Fragment.value v ∈ fragmentsOf (items s last run nodes) →
    IsValueIn s nodes v
  | [], h => by
    rw [items] at h
    exact absurd h (value_not_mem_run s last run v)
  | n :: rest, h => by
    by_cases hn : n.IsText
    · rw [items_text s last run n rest hn] at h
      exact (isValueIn_of_fragment s n.stop _ v rest h).of_rest
    · rw [items_other s last run n rest hn, fragmentsOf_append, fragmentsOf_append,
        List.mem_append, List.mem_append] at h
      rcases h with (h | h) | h
      · exact absurd h (value_not_mem_run s last run v)
      · exact (Node.isValueIn_of_fragment s last v n h).of_children hn
      · exact (isValueIn_of_fragment s n.stop none v rest h).of_rest

end

/-! ### Records -/

/-- What a fragment says by itself: the value of an attribute or a text without the white space
around it. -/
def Fragment.words : Fragment → List Char
  | .value v => v.content
  | .text _ content => Text.trim content
  | .script _ _ _ => []

/-- The record of a fragment that is no script. -/
def Fragment.record? (r : Range) (file : String) (d : List Char) (f : Fragment) : Option Record :=
  if f.words ≠ [] ∧ r.test (String.ofList f.words) = true then
    some ⟨file, Lines.lineAt d f.start, .markup, String.ofList f.words⟩
  else none

section

variable (r : Range) (file : String) (d : List Char)

theorem records_find (offset : Nat) (words : List Char) (hne : words ≠ []) :
    (find r file ((Lines.Index.ofText d).lineAt offset) words).records =
      (if words ≠ [] ∧ r.test (String.ofList words) = true then
        some (Record.mk file (Lines.lineAt d offset) .markup (String.ofList words))
      else none).toList := by
  rw [Lines.Index.lineAt_ofText, find]
  by_cases ht : r.test (String.ofList words) = true
  · rw [if_pos ht, if_pos ⟨hne, ht⟩]
    rfl
  · rw [if_neg ht, if_neg fun h => ht h.2]
    rfl

theorem Fragment.filter_records (f : Fragment) :
    (f.finds r file (Lines.Index.ofText d)).records.filter (·.source = .markup) =
      (f.record? r file d).toList := by
  have hkeep : f.embedded? = none →
      (f.finds r file (Lines.Index.ofText d)).records.filter (·.source = .markup) =
        (f.finds r file (Lines.Index.ofText d)).records := by
    intro h
    rw [List.filter_eq_self]
    intro x hx
    exact decide_eq_true ((f.finds_of_not_script r file _ h).2 x hx)
  cases f with
  | value v =>
    rw [hkeep rfl, finds]
    cases hc : v.content with
    | nil => simp [record?, words, hc]
    | cons c rest =>
      rw [List.isEmpty_cons, if_neg Bool.false_ne_true, ← hc]
      exact records_find r file d v.start v.content (by rw [hc]; exact List.cons_ne_nil c rest)
  | text start content =>
    rw [hkeep rfl, finds]
    cases hc : Text.trim content with
    | nil => simp [record?, words, hc]
    | cons c rest =>
      rw [List.isEmpty_cons, if_neg Bool.false_ne_true, ← hc]
      exact records_find r file d start _ (by rw [hc]; exact List.cons_ne_nil c rest)
  | script start language content =>
    have hnone : (Fragment.script start language content).record? r file d = none :=
      if_neg fun h => h.1 rfl
    rw [hnone, Option.toList_none, List.filter_eq_nil_iff]
    intro x hx
    rw [Fragment.finds_of_script r file d _ ⟨start, language, content⟩ rfl] at hx
    split at hx
    · contradiction
    · rw [Embedded.source_of_mem_read r file d _ x hx]
      decide

theorem filter_records_finds : (finds r file d).records.filter (·.source = .markup) =
    (fragmentsOf (document d)).filterMap (·.record? r file d) := by
  unfold finds
  dsimp only
  rw [List.flatMap_map, List.filter_flatMap, List.filterMap_eq_flatMap_toList]
  simp only [Fragment.filter_records]

end

/-- A record of the value of an attribute, told with the line of its first byte. -/
def FromValue (d : List Char) (x : Record) : Prop :=
  ∃ o, StandsAt d o x.text.toList ∧ x.line = Lines.lineAt d o ∧
    IsValueIn (.ofText d) (Page.ofText d).nodes ⟨x.text.toList, o⟩

/-- A record of a run of text, told with the line on which the run begins. -/
def FromRun (d : List Char) (x : Record) : Prop :=
  ∃ run, RunIn 0 (Page.ofText d).nodes run ∧
    x.text.toList = Text.trim ((Page.ofText d).text run.first run.stop) ∧
    Text.Trimmed x.text.toList ∧ x.line = Lines.lineAt d ((Page.ofText d).byteAt run.first) ∧
    ∃ blank, Text.AllBlank blank ∧ StandsAt d ((Page.ofText d).byteAt run.first) blank ∧
      StandsAt d ((Page.ofText d).byteAt run.first + byteSize blank) x.text.toList

section

variable (r : Range) (file : String) (d : List Char)

theorem fromValue_of_record (v : Value) (hv : Fragment.value v ∈ fragmentsOf (document d))
    (hne : v.content ≠ []) :
    FromValue d ⟨file, Lines.lineAt d v.start, .markup, String.ofList v.content⟩ := by
  have hvalue := isValueIn_of_fragment _ 0 none v _ hv
  refine ⟨v.start, ?_, rfl, ?_⟩
  · obtain ⟨a, -, -, w, -, -, rfl⟩ := hvalue
    rw [String.toList_ofList]
    exact Page.standsAt d w.start w.stop hne
  · rw [String.toList_ofList]
    exact hvalue

theorem fromRun_of_record (start : Nat) (content : List Char)
    (hf : Fragment.text start content ∈ fragmentsOf (document d)) (hne : Text.trim content ≠ []) :
    FromRun d ⟨file, Lines.lineAt d start, .markup, String.ofList (Text.trim content)⟩ := by
  obtain ⟨run, hrun, heq⟩ := exists_run_of_fragment d _ _ hf rfl
  obtain ⟨hstart, hcontent⟩ := Fragment.text.inj heq
  subst hstart hcontent
  obtain ⟨blank, rest, hblank, hsplit⟩ :=
    Text.exists_trim ((Page.ofText d).text run.first run.stop)
  have hpage : (Page.ofText d).text run.first run.stop ≠ [] := by
    intro hnil
    rw [hnil] at hne
    exact hne rfl
  have hstands := Page.standsAt d run.first run.stop hpage
  rw [hsplit] at hstands
  obtain ⟨hfront, hback⟩ := hstands.of_append
  refine ⟨run, hrun, ?_, ?_, rfl, blank, hblank, hfront, ?_⟩
  · exact String.toList_ofList
  · rw [String.toList_ofList]
    exact Text.trimmed_trim _
  · rw [String.toList_ofList]
    exact hback.of_append.1

/-- Every record of markup is a stretch of the page, from an attribute's value or from a run of text
with the white space around it left out. Each value that is not empty and each run that is not blank
gives one record if its words are in range, and the records are in the order of the page, those of a
tag's attributes in front of what is in the element. -/
theorem markup_records :
    (∀ x ∈ (finds r file d).records, x.source = .markup →
      x.file = file ∧ x.text ≠ "" ∧ r.test x.text = true ∧ (FromValue d x ∨ FromRun d x)) ∧
    (finds r file d).records.filter (·.source = .markup) =
      (fragmentsOf (document d)).filterMap (·.record? r file d) := by
  refine ⟨?_, filter_records_finds r file d⟩
  intro x hx hk
  have hmem : x ∈ (finds r file d).records.filter (·.source = .markup) :=
    List.mem_filter.mpr ⟨hx, decide_eq_true hk⟩
  rw [filter_records_finds] at hmem
  obtain ⟨f, hf, hrecord⟩ := List.mem_filterMap.mp hmem
  unfold Fragment.record? at hrecord
  split at hrecord
  · rename_i hwords
    obtain ⟨hne, htest⟩ := hwords
    cases hrecord
    have hsome : String.ofList f.words ≠ "" := by
      intro hempty
      exact hne (String.ofList_eq_empty_iff.mp hempty)
    refine ⟨rfl, hsome, htest, ?_⟩
    cases f with
    | value v => exact .inl (fromValue_of_record file d v hf hne)
    | text start content => exact .inr (fromRun_of_record file d start content hf hne)
    | script start language content => exact absurd rfl hne
  · contradiction

end

/-! ### Runs behind errors -/

mutual

def Node.endInside (last : Nat) : Node → Nat
  | ⟨kind, _, stop, children⟩ => if kind = .error then endInside last children else stop

/-- Where the last of some siblings ends, if what is in errors is read in the place of the errors.
-/
def endInside (last : Nat) : List Node → Nat
  | [] => last
  | n :: rest => endInside (n.endInside last) rest

end

/-- A run behind an error begins where the error ends, which can be on a later line than where the
last node ends that is no error. -/
theorem run_behind_error :
    let r : Range := ⟨Range.default, .set (.range '\u4e00' '\u9fff')⟩
    let d := "<p>a<div>b</div>\n</p>文&lt;中".toList
    ∃ before texts, (Page.ofText d).nodes = before ++ texts ∧ texts ≠ [] ∧
      (∀ n ∈ texts, n.IsText) ∧ (∀ n ∈ before.getLast?, n.kind = .error) ∧
      (finds r "page.html" d).records = [⟨"page.html", 2, .markup, "&lt;中"⟩] ∧
      Lines.lineAt d ((Page.ofText d).byteAt (endInside 0 before)) = 1 := by
  intro r d
  have hpage : 0 < ((Page.ofText d).nodes.drop 3).length ∧
      (∀ n ∈ (Page.ofText d).nodes.drop 3, n.IsText) ∧
      (∀ n ∈ ((Page.ofText d).nodes.take 3).getLast?, n.kind = .error) ∧
      (finds r "page.html" d).records = [⟨"page.html", 2, .markup, "&lt;中"⟩] ∧
      Lines.lineAt d ((Page.ofText d).byteAt (endInside 0 ((Page.ofText d).nodes.take 3))) = 1 := by
    decide +kernel
  obtain ⟨hlength, htexts, hbefore, hrecords, hline⟩ := hpage
  exact ⟨_, _, (List.take_append_drop 3 _).symm, List.ne_nil_of_length_pos hlength, htexts, hbefore,
    hrecords, hline⟩

end Markup

end Glean
