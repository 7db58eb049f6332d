import Glean.Proofs.FragmentOrder
import Glean.Proofs.RecordInvariant
import Glean.Proofs.RecordLines

set_option autoImplicit false

/-!
# Records in order

The records of a file come in the order of their lines. A script passes its literals one behind the
other, a page is read from its start to its end, and a script inside a page tells no line beyond its
own.
-/
namespace Glean

namespace Script

variable (r : Range) (l : Language) (file : String) (before : Nat) (code : List Char)

theorem pairwise_recordsOf (text : List Char) (tokens : List Literal)
    (h : tokens.Pairwise fun t u => t.start + byteSize t.text ≤ u.start) :
    (recordsOf r file before text tokens).Pairwise (·.line ≤ ·.line) := by
  rw [recordsOf, List.pairwise_map]
  apply (h.filter _).imp
  intro t u htu
  have := Lines.lineAt_le text t.start u.start (by omega)
  change Lines.lineAt text t.start + before ≤ Lines.lineAt text u.start + before
  omega

theorem pairwise_records? (records : List Record)
    (h : records? r l file before code = some records) :
    records.Pairwise (·.line ≤ ·.line) := by
  rw [records?_eq] at h
  obtain ⟨tokens, htokens, rfl⟩ := Option.map_eq_some_iff.mp h
  exact pairwise_recordsOf r file before _ tokens (l.apart_of_literals? _ tokens htokens)

end Script

namespace Markup

variable (r : Range) (file : String) (text : List Char)

/-- Records are in order, on lines from that of one byte to that of another. -/
structure InOrder (lo hi : Nat) (records : List Record) : Prop where
  pairwise : records.Pairwise (·.line ≤ ·.line)
  lower : ∀ x ∈ records, Lines.lineAt text lo ≤ x.line
  upper : ∀ x ∈ records, x.line ≤ Lines.lineAt text hi

theorem inOrder_nil (lo hi : Nat) : InOrder text lo hi [] := ⟨.nil, nofun, nofun⟩

theorem InOrder.widen {records : List Record} {lo hi : Nat} (h : InOrder text lo hi records)
    (k : Nat) (hk : hi ≤ k) : InOrder text lo k records := by
  refine ⟨h.pairwise, h.lower, ?_⟩
  intro x hx
  exact Nat.le_trans (h.upper x hx) (Lines.lineAt_le text hi k hk)

theorem inOrder_find (offset : Nat) (content : List Char) :
    InOrder text offset offset
      (find r file ((Lines.Index.ofText text).lineAt offset) content).records := by
  rw [Lines.Index.lineAt_ofText]
  have hline : ∀ x ∈ (find r file (Lines.lineAt text offset) content).records,
      x.line = Lines.lineAt text offset := fun x hx => (of_mem_find r file _ _ x hx).1
  refine ⟨?_, fun x hx => Nat.le_of_eq (hline x hx).symm, fun x hx => Nat.le_of_eq (hline x hx)⟩
  apply List.pairwise_of_forall_mem_list
  intro x hx y hy
  exact Nat.le_of_eq ((hline x hx).trans (hline y hy).symm)

theorem inOrder_embedded (e : Embedded) (h : e ∈ scriptsOf (document text))
    (hb : e.isBlank = false) :
    InOrder text e.start (e.start + byteSize e.content)
      ((e.read r file text).toOption.getD []) := by
  cases hread : e.read r file text with
  | error failure => exact inOrder_nil text _ _
  | ok records =>
    have hrecords : Script.records? r e.language file (Lines.lineAt text e.start - 1) e.content =
        some records := by
      rw [← Script.toOption_read]
      exact congrArg Except.toOption hread
    have horigin : ∀ x ∈ records, ∃ o ≤ byteSize e.content,
        x.line = Lines.lineAt text (e.start + o) := by
      intro x hx
      obtain ⟨t, o, ho, rfl⟩ :=
        exists_origin_of_mem_embedded r file text e h hb records hread x hx
      exact ⟨o, ho.carried.le_byteSize, rfl⟩
    refine ⟨Script.pairwise_records? r _ file _ _ records hrecords, ?_, ?_⟩
    · intro x hx
      obtain ⟨o, -, hline⟩ := horigin x hx
      rw [hline]
      exact Lines.lineAt_le text _ _ (Nat.le_add_right _ _)
    · intro x hx
      obtain ⟨o, ho, hline⟩ := horigin x hx
      rw [hline]
      exact Lines.lineAt_le text _ _ (Nat.add_le_add_left ho _)

theorem inOrder_fragment (f : Fragment) (hf : f ∈ fragmentsOf (document text)) :
    InOrder text f.start f.stop (f.finds r file (Lines.Index.ofText text)).records := by
  cases f with
  | value v =>
    simp only [Fragment.finds]
    split
    · exact inOrder_nil text _ _
    · exact (inOrder_find r file text v.start v.content).widen text _ (Nat.le_add_right _ _)
  | text start content =>
    simp only [Fragment.finds]
    split
    · exact inOrder_nil text _ _
    · exact (inOrder_find r file text start _).widen text _ (Nat.le_add_right _ _)
  | script start language content =>
    have he : (⟨start, language, content⟩ : Embedded) ∈ scriptsOf (document text) := by
      rw [scriptsOf_eq]
      exact List.mem_filterMap.mpr ⟨_, hf, rfl⟩
    rw [Fragment.finds_of_script r file text _ _ rfl]
    split
    · exact inOrder_nil text _ _
    · rename_i hb
      exact inOrder_embedded r file text _ he (Bool.eq_false_iff.mpr hb)

/-- What is found in fragments that are in order is in order. -/
theorem inOrder_fragments (fs : List Fragment) (lo hi : Nat) (h : OrderedIn lo hi fs)
    (hfs : ∀ f ∈ fs, f ∈ fragmentsOf (document text)) :
    InOrder text lo hi
      (fs.flatMap fun f => (f.finds r file (Lines.Index.ofText text)).records) := by
  induction fs generalizing lo with
  | nil => exact inOrder_nil text lo hi
  | cons f fs ih =>
    obtain ⟨hlo, hrest⟩ := h
    have hfirst := inOrder_fragment r file text f (hfs f List.mem_cons_self)
    have hothers := ih f.stop hrest fun g hg => hfs g (List.mem_cons_of_mem f hg)
    have hstart := Lines.lineAt_le text lo f.start hlo
    have hlater := Lines.lineAt_le text lo f.stop (Nat.le_trans hlo f.start_le_stop)
    have hstop := Lines.lineAt_le text f.stop hi hrest.le
    rw [List.flatMap_cons]
    refine ⟨List.pairwise_append.mpr ⟨hfirst.pairwise, hothers.pairwise, ?_⟩, ?_, ?_⟩
    · intro x hx y hy
      exact Nat.le_trans (hfirst.upper x hx) (hothers.lower y hy)
    · intro x hx
      rcases List.mem_append.mp hx with hx | hx
      · exact Nat.le_trans hstart (hfirst.lower x hx)
      · exact Nat.le_trans hlater (hothers.lower x hx)
    · intro x hx
      rcases List.mem_append.mp hx with hx | hx
      · exact Nat.le_trans (hfirst.upper x hx) hstop
      · exact hothers.upper x hx

theorem inOrder_finds : InOrder text 0 (byteSize text) (finds r file text).records := by
  have hall := inOrder_fragments r file text _ _ _ (orderedIn_fragmentsOf text) fun _ hf => hf
  unfold finds
  dsimp only
  rwa [List.flatMap_map]

theorem pairwise_finds : (finds r file text).records.Pairwise (·.line ≤ ·.line) :=
  (inOrder_finds r file text).pairwise

end Markup

theorem Search.pairwise_outcome (s : Search) (file extension : String) (text : List Char) :
    (s.outcome file extension text).records.Pairwise (·.line ≤ ·.line) := by
  rcases s.outcome_cases file extension text with ⟨l, code, heq⟩ | heq
  · rw [heq, records_readScript]
    cases h : Script.records? s.range l file 0 code with
    | none => exact .nil
    | some records => exact Script.pairwise_records? s.range l file 0 code records h
  · rw [heq]
    exact Markup.pairwise_finds s.range file _

/-- The records of a file come in the order of the lines that they are on. -/
theorem line_le_of_visitText (s : Search) (file : String) (text : List Char) :
    (s.visitText file text).records.Pairwise (·.line ≤ ·.line) := by
  unfold Search.visitText
  split
  · exact s.pairwise_outcome file _ text
  · exact .nil

end Glean
