import Glean.Proofs.ImportCalls

set_option autoImplicit false

/-!
# Lines of a script without its calls

A text is cut at its leftmost calls in exactly one way. What is read is the same text with `{}` and
line feeds in place of each call, and every byte that is kept stays on its line.
-/
namespace Glean.ImportCall

/-- No call begins in the first part of `first ++ rest`. -/
def NoneBegins (first rest : List Char) : Prop :=
  ∀ behind, behind <:+ first → behind ≠ [] → ∀ call, IsCall call → ¬call <+: behind ++ rest

/-- A text, its leftmost calls, each behind what is kept in front of it, and what is kept behind
the last one. -/
inductive Cut : List Char → List (List Char × List Char) → List Char → Prop
  | done (last : List Char) (h : NoneBegins last []) : Cut last [] last
  | call (kept call rest last : List Char) (parts : List (List Char × List Char))
      (hcall : IsCall call) (hkept : NoneBegins kept (call ++ rest)) (hrest : Cut rest parts last) :
      Cut (kept ++ (call ++ rest)) ((kept, call) :: parts) last

/-- Parts of a text as they were written. -/
def written (parts : List (List Char × List Char)) : List Char :=
  parts.flatMap fun p => p.1 ++ p.2

/-- Parts of a text with every call replaced. -/
def replaced (parts : List (List Char × List Char)) : List Char :=
  parts.flatMap fun p => p.1 ++ ("\x7b\x7d".toList ++ List.replicate (Lines.breaks p.2) '\n')

/-- A stretch that is kept behind the first `front` parts of a text: in front of a call, or at the
end. -/
def IsKept (parts : List (List Char × List Char)) (last : List Char)
    (front : List (List Char × List Char)) (kept : List Char) : Prop :=
  (∃ call back, parts = front ++ (kept, call) :: back) ∨ (front = parts ∧ kept = last)

@[simp] theorem written_cons (p : List Char × List Char) (parts : List (List Char × List Char)) :
    written (p :: parts) = p.1 ++ (p.2 ++ written parts) := by
  simp [written]

@[simp] theorem replaced_cons (p : List Char × List Char) (parts : List (List Char × List Char)) :
    replaced (p :: parts) = p.1 ++ ((Segment.call p.2).image ++ replaced parts) := by
  simp [replaced, Segment.image]

theorem breaks_replaced (parts : List (List Char × List Char)) :
    Lines.breaks (replaced parts) = Lines.breaks (written parts) := by
  induction parts with
  | nil => rfl
  | cons p parts ih =>
    have hcall : Lines.breaks (Segment.call p.2).image = Lines.breaks p.2 := breaks_image _
    simp only [replaced_cons, written_cons, Lines.breaks_append, hcall, ih]

theorem noneBegins_nil (rest : List Char) : NoneBegins [] rest := by
  intro behind hs hne
  exact absurd (List.suffix_nil.mp hs) hne

theorem lengthAt?_eq_none_iff (text : List Char) :
    lengthAt? text = none ↔ ∀ call, IsCall call → ¬call <+: text := by
  constructor
  · rintro h call hcall ⟨rest, rfl⟩
    rw [lengthAt?_append call rest hcall] at h
    contradiction
  · intro h
    cases hl : lengthAt? text with
    | none => rfl
    | some n =>
      obtain ⟨call, rest, hcall, rfl, -⟩ := exists_call text n hl
      exact absurd (List.prefix_append call rest) (h call hcall)

theorem noneBegins_cons_iff (c : Char) (first rest : List Char) :
    NoneBegins (c :: first) rest ↔
      lengthAt? (c :: (first ++ rest)) = none ∧ NoneBegins first rest := by
  rw [lengthAt?_eq_none_iff]
  constructor
  · intro h
    exact ⟨h (c :: first) List.suffix_rfl (List.cons_ne_nil c first),
      fun behind hs => h behind (hs.trans (List.suffix_cons c first))⟩
  · rintro ⟨here, later⟩ behind hs hne
    rcases List.suffix_cons_iff.mp hs with rfl | hs
    · exact here
    · exact later behind hs hne

theorem neutralize_of_noneBegins (first rest : List Char) (h : NoneBegins first rest) :
    neutralize (first ++ rest) = first ++ neutralize rest := by
  induction first with
  | nil => rfl
  | cons c first ih =>
    obtain ⟨here, later⟩ := (noneBegins_cons_iff c first rest).mp h
    rw [List.cons_append, neutralize_kept c _ here, ih later, List.cons_append]

theorem exists_cut (text : List Char) : ∃ parts last, Cut text parts last := by
  induction text using segments_induction with
  | nil => exact ⟨[], [], .done [] (noneBegins_nil [])⟩
  | call call rest hcall ih =>
    obtain ⟨parts, last, hrest⟩ := ih
    exact ⟨_, last, .call [] call rest last parts hcall (noneBegins_nil _) hrest⟩
  | kept c rest hl ih =>
    obtain ⟨parts, last, hrest⟩ := ih
    cases hrest with
    | done _ hlast =>
      refine ⟨[], c :: rest, .done _ ((noneBegins_cons_iff c rest []).mpr ⟨?_, hlast⟩)⟩
      rwa [List.append_nil]
    | call kept call rest _ parts hcall hkept hrest =>
      exact ⟨_, last, .call (c :: kept) call rest last parts hcall
        ((noneBegins_cons_iff c kept _).mpr ⟨hl, hkept⟩) hrest⟩

theorem IsCall.append_inj {first second rest behind : List Char} (hf : IsCall first)
    (hs : IsCall second) (h : first ++ rest = second ++ behind) :
    first = second ∧ rest = behind := by
  have hlen := lengthAt?_append first rest hf
  rw [h, lengthAt?_append second behind hs, Option.some.injEq] at hlen
  exact List.append_inj h hlen.symm

theorem NoneBegins.eq_nil {first more rest call behind : List Char}
    (h : NoneBegins (first ++ more) rest) (hcall : IsCall call)
    (heq : call ++ behind = more ++ rest) : more = [] := by
  by_contra hmore
  refine h more (List.suffix_append first more) hmore call hcall ?_
  rw [← heq]
  exact List.prefix_append call behind

/-- Two texts with a call behind what is kept are kept up to the same place. -/
theorem NoneBegins.append_inj {first second call other rest behind : List Char}
    (hf : NoneBegins first (call ++ rest)) (hs : NoneBegins second (other ++ behind))
    (hcall : IsCall call) (hother : IsCall other)
    (h : first ++ (call ++ rest) = second ++ (other ++ behind)) :
    first = second ∧ call ++ rest = other ++ behind := by
  rcases List.append_eq_append_iff.mp h with ⟨more, rfl, heq⟩ | ⟨more, rfl, heq⟩
  · obtain rfl := hs.eq_nil hcall heq
    exact ⟨(List.append_nil first).symm, heq⟩
  · obtain rfl := hf.eq_nil hother heq
    exact ⟨List.append_nil second, heq.symm⟩

theorem NoneBegins.ne_call {text kept call rest : List Char} (h : NoneBegins text [])
    (hcall : IsCall call) : text ≠ kept ++ (call ++ rest) := by
  rintro rfl
  have hnil := h.eq_nil hcall (List.append_nil (call ++ rest)).symm
  have hpos := length_pos_of_isCall call hcall
  rw [(List.append_eq_nil_iff.mp hnil).1] at hpos
  contradiction

theorem Cut.unique {text last other : List Char} {parts others : List (List Char × List Char)}
    (h : Cut text parts last) (ho : Cut text others other) : others = parts ∧ other = last := by
  induction h generalizing others other with
  | done last hlast =>
    generalize ht : last = text at ho
    cases ho with
    | done => exact ⟨rfl, rfl⟩
    | call kept call rest _ _ hcall => exact absurd ht (hlast.ne_call hcall)
  | call kept call rest last parts hcall hkept hrest ih =>
    generalize ht : kept ++ (call ++ rest) = text at ho
    cases ho with
    | done _ hlast => exact absurd ht.symm (hlast.ne_call hcall)
    | call kept' call' rest' _ parts' hcall' hkept' hrest' =>
      obtain ⟨rfl, htail⟩ := hkept.append_inj hkept' hcall hcall' ht
      obtain ⟨rfl, rfl⟩ := hcall.append_inj hcall' htail
      obtain ⟨rfl, rfl⟩ := ih hrest'
      exact ⟨rfl, rfl⟩

theorem Cut.written_append {text last : List Char} {parts : List (List Char × List Char)}
    (h : Cut text parts last) : text = written parts ++ last := by
  induction h with
  | done => rfl
  | call kept call rest last parts _ _ _ ih =>
    rw [ih, written_cons]
    simp only [List.append_assoc]

theorem Cut.neutralize_eq {text last : List Char} {parts : List (List Char × List Char)}
    (h : Cut text parts last) : neutralize text = replaced parts ++ last := by
  induction h with
  | done last hlast =>
    have h := neutralize_of_noneBegins last [] hlast
    simpa [neutralize, segments_nil, replaced] using h
  | call kept call rest last parts hcall hkept _ ih =>
    rw [neutralize_of_noneBegins kept _ hkept, neutralize_call call rest hcall, ih, replaced_cons]
    simp only [List.append_assoc]

theorem written_append_cons (front back : List (List Char × List Char))
    (p : List Char × List Char) :
    written (front ++ p :: back) = written front ++ (p.1 ++ (p.2 ++ written back)) := by
  rw [written, List.flatMap_append]
  exact congrArg _ (written_cons p back)

theorem replaced_append_cons (front back : List (List Char × List Char))
    (p : List Char × List Char) :
    replaced (front ++ p :: back) =
      replaced front ++ (p.1 ++ ((Segment.call p.2).image ++ replaced back)) := by
  rw [replaced, List.flatMap_append]
  exact congrArg _ (replaced_cons p back)

/-- Behind parts with as many line feeds, a stretch is on the same lines. -/
theorem lineAt_kept (front other kept behind rest : List Char) (k : Nat)
    (hbreaks : Lines.breaks front = Lines.breaks other) (hk : k ≤ byteSize kept) :
    Lines.lineAt (front ++ (kept ++ behind)) (byteSize front + k) =
      Lines.lineAt (other ++ (kept ++ rest)) (byteSize other + k) := by
  rw [Lines.lineAt_append_add, Lines.lineAt_append_add, hbreaks,
    Lines.lineAt_append_of_le kept behind k hk, Lines.lineAt_append_of_le kept rest k hk]

theorem Cut.lineAt_eq {text last kept : List Char} {parts front : List (List Char × List Char)}
    (h : Cut text parts last) (hkept : IsKept parts last front kept) (k : Nat)
    (hk : k ≤ byteSize kept) :
    Lines.lineAt (neutralize text) (byteSize (replaced front) + k) =
      Lines.lineAt text (byteSize (written front) + k) := by
  rw [h.neutralize_eq, h.written_append]
  rcases hkept with ⟨call, back, rfl⟩ | ⟨rfl, rfl⟩
  · rw [written_append_cons, replaced_append_cons]
    simp only [List.append_assoc]
    exact lineAt_kept _ _ _ _ _ k (breaks_replaced front) hk
  · have hline := lineAt_kept _ _ kept [] [] k (breaks_replaced front) hk
    rwa [List.append_nil] at hline

/-- A script is read as it is cut at its leftmost calls: each of them is replaced, what is kept
stays on its lines, and there are as many lines as before. -/
theorem neutralize_keeps_lines (text : List Char) :
    ∃ parts last, Cut text parts last ∧
      (∀ others other, Cut text others other → others = parts ∧ other = last) ∧
      text = written parts ++ last ∧
      neutralize text = replaced parts ++ last ∧
      Lines.breaks (neutralize text) = Lines.breaks text ∧
      ∀ front kept, IsKept parts last front kept → ∀ k, k ≤ byteSize kept →
        Lines.lineAt (neutralize text) (byteSize (replaced front) + k) =
          Lines.lineAt text (byteSize (written front) + k) := by
  obtain ⟨parts, last, h⟩ := exists_cut text
  refine ⟨parts, last, h, fun _ _ ho => h.unique ho, h.written_append, h.neutralize_eq, ?_,
    fun _ _ hkept k hk => h.lineAt_eq hkept k hk⟩
  calc
    Lines.breaks (neutralize text) = Lines.breaks (replaced parts ++ last) := by
      rw [h.neutralize_eq]
    _ = Lines.breaks (written parts ++ last) := by
      rw [Lines.breaks_append, Lines.breaks_append, breaks_replaced]
    _ = Lines.breaks text := by rw [← h.written_append]

theorem neutralize_keeps_lines_two_calls :
    let first := "import(\n'中'\n)".toList
    let second := "import(import(b)".toList
    let text := "a = ".toList ++ (first ++ (";\n".toList ++ (second ++ ";c".toList)))
    Cut text [("a = ".toList, first), (";\n".toList, second)] ";c".toList ∧
      neutralize text = "a = \x7b\x7d\n\n;\n\x7b\x7d;c".toList ∧
      Lines.lineAt (neutralize text) 13 = Lines.lineAt text 38 := by
  intro first second text
  have hfirst : IsCall first := ⟨"\n'中'\n".toList, by decide⟩
  have hsecond : IsCall second := ⟨"import(b".toList, by decide⟩
  have hcut : Cut text [("a = ".toList, first), (";\n".toList, second)] ";c".toList := by
    refine .call _ first _ _ _ hfirst ?_ (.call _ second _ _ _ hsecond ?_ (.done _ ?_))
    all_goals simp only [String.reduceToList, noneBegins_cons_iff, noneBegins_nil]
    all_goals decide
  obtain ⟨found, last, -, unique, -, hread, -, hlines⟩ := neutralize_keeps_lines text
  obtain ⟨rfl, rfl⟩ := unique _ _ hcut
  have hline := hlines _ ";c".toList (.inr ⟨rfl, rfl⟩) 1 (by decide)
  have hplaces : byteSize (replaced [("a = ".toList, first), (";\n".toList, second)]) = 12 ∧
      byteSize (written [("a = ".toList, first), (";\n".toList, second)]) = 37 := by decide
  rw [hplaces.1, hplaces.2] at hline
  exact ⟨hcut, by rw [hread]; decide, hline⟩

end Glean.ImportCall
