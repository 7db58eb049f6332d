import Glean.Proofs.Lines
import Glean.Script.ImportCall
import Mathlib.Data.List.TakeWhile

set_option autoImplicit false

/-!
# Import calls and what is left of them

Where a script holds import calls, and what their replacement does to the places and the lines of
all that is kept. No call is left in what is read.
-/
namespace Glean

theorem exists_eq_append_of_not_mem (first rest before behind : List Char) (q : Char)
    (hq : q ∉ first) (h : first ++ rest = before ++ q :: behind) :
    ∃ between, before = first ++ between ∧ rest = between ++ q :: behind := by
  induction first generalizing before with
  | nil => exact ⟨before, rfl, h⟩
  | cons c first ih =>
    cases before with
    | nil =>
      have hc : c = q := (List.cons.inj h).1
      exact absurd (hc ▸ List.mem_cons_self) hq
    | cons b before =>
      obtain ⟨rfl, ht⟩ := List.cons.inj h
      obtain ⟨between, hb, hr⟩ := ih before (fun hm => hq (List.mem_cons_of_mem _ hm)) ht
      exact ⟨between, by rw [hb, List.cons_append], hr⟩

namespace ImportCall

/-- A whole call: something without a closing parenthesis between `import(` and the next one. -/
def IsCall (call : List Char) : Prop :=
  ∃ inside, call = opening ++ (inside ++ [')']) ∧ inside ≠ [] ∧ ')' ∉ inside

theorem takeWhile_inside (inside rest : List Char) (h : ')' ∉ inside) :
    (inside ++ ')' :: rest).takeWhile (· ≠ ')') = inside := by
  have hp : ∀ c ∈ inside, decide (c ≠ ')') = true := by
    intro c hc
    have hne : c ≠ ')' := fun he => h (he ▸ hc)
    simpa using hne
  rw [List.takeWhile_append_of_pos hp, List.takeWhile_cons_of_neg (by simp), List.append_nil]

theorem lengthAt?_append (call rest : List Char) (h : IsCall call) :
    lengthAt? (call ++ rest) = some call.length := by
  obtain ⟨inside, rfl, hne, hin⟩ := h
  have hp : opening.isPrefixOf (opening ++ (inside ++ ')' :: rest)) = true :=
    List.isPrefixOf_iff_prefix.mpr (List.prefix_append _ _)
  have hd : (opening ++ (inside ++ ')' :: rest)).drop opening.length = inside ++ ')' :: rest :=
    List.drop_left
  have hlen : opening.length + inside.length < (opening ++ (inside ++ ')' :: rest)).length := by
    simp only [List.length_append, List.length_cons]
    omega
  have hcall : opening ++ (inside ++ [')']) ++ rest = opening ++ (inside ++ ')' :: rest) := by
    simp only [List.append_assoc, List.singleton_append]
  rw [hcall]
  unfold lengthAt?
  rw [if_pos hp, hd, takeWhile_inside inside rest hin]
  dsimp only
  rw [if_pos ⟨hne, hlen⟩]
  simp only [List.length_append, List.length_singleton, Nat.add_assoc]

theorem exists_call (text : List Char) (n : Nat) (h : lengthAt? text = some n) :
    ∃ call rest, IsCall call ∧ text = call ++ rest ∧ n = call.length := by
  unfold lengthAt? at h
  split at h
  · rename_i hp
    obtain ⟨behind, rfl⟩ := List.isPrefixOf_iff_prefix.mp hp
    rw [List.drop_left] at h
    dsimp only at h
    split at h
    · rename_i hc
      obtain ⟨hne, hlen⟩ := hc
      rw [Option.some.injEq] at h
      subst n
      have hsplit := List.takeWhile_append_dropWhile (p := (· ≠ ')')) (l := behind)
      generalize hin : behind.takeWhile (· ≠ ')') = inside at *
      generalize hre : behind.dropWhile (· ≠ ')') = rest at *
      have hnot : ')' ∉ inside := by
        intro hmem
        rw [← hin] at hmem
        simpa using List.mem_takeWhile_imp hmem
      cases rest with
      | nil =>
        rw [List.append_nil] at hsplit
        rw [hsplit, List.length_append] at hlen
        omega
      | cons c rest =>
        have hne' : behind.dropWhile (· ≠ ')') ≠ [] := by
          rw [hre]
          exact List.cons_ne_nil c rest
        have hc : c = ')' := by
          have hhead := List.head_dropWhile_not _ hne'
          simpa only [hre, List.head_cons, decide_eq_false_iff_not, not_not] using hhead
        subst c
        refine ⟨opening ++ (inside ++ [')']), rest, ⟨inside, rfl, hne, hnot⟩, ?_, ?_⟩
        · rw [← hsplit]
          simp only [List.append_assoc, List.singleton_append]
        · simp only [List.length_append, List.length_singleton, Nat.add_assoc]
    · contradiction
  · contradiction

theorem length_pos_of_isCall (call : List Char) (h : IsCall call) : 0 < call.length := by
  obtain ⟨inside, rfl, -, -⟩ := h
  simp only [List.length_append, List.length_singleton]
  omega

theorem segmentsFrom_eq (skip : Nat) (text : List Char) :
    segmentsFrom skip text = segments (text.drop skip) := by
  induction skip generalizing text with
  | zero => rfl
  | succ skip ih =>
    cases text with
    | nil => rfl
    | cons c text => exact ih text

theorem segments_nil : segments [] = [] := rfl

theorem segments_call (call rest : List Char) (h : IsCall call) :
    segments (call ++ rest) = .call call :: segments rest := by
  have hl := lengthAt?_append call rest h
  have hpos := length_pos_of_isCall call h
  cases call with
  | nil => contradiction
  | cons c call =>
    rw [List.cons_append] at hl
    simp only [segments, List.cons_append, segmentsFrom, hl]
    rw [segmentsFrom_eq, ← List.cons_append, List.take_left, List.length_cons,
      Nat.add_sub_cancel, List.drop_left]
    rfl

theorem segments_kept (c : Char) (text : List Char) (h : lengthAt? (c :: text) = none) :
    segments (c :: text) = .kept c :: segments text := by
  simp only [segments, segmentsFrom, h]

/-- A text is read from its end: a call in front of a text that was read, or a character with
which no call begins. -/
theorem segments_induction {motive : List Char → Prop} (nil : motive [])
    (call : ∀ call rest, IsCall call → motive rest → motive (call ++ rest))
    (kept : ∀ c rest, lengthAt? (c :: rest) = none → motive rest → motive (c :: rest))
    (text : List Char) : motive text := by
  induction hn : text.length using Nat.strongRecOn generalizing text with
  | ind n ih =>
    subst n
    cases text with
    | nil => exact nil
    | cons c rest =>
      cases hl : lengthAt? (c :: rest) with
      | none => exact kept c rest hl (ih rest.length (Nat.lt_succ_self _) rest rfl)
      | some n =>
        obtain ⟨first, behind, hf, heq, -⟩ := exists_call _ _ hl
        have hpos := length_pos_of_isCall first hf
        rw [heq]
        refine call first behind hf (ih behind.length ?_ behind rfl)
        rw [heq, List.length_append]
        omega

theorem flatMap_source (text : List Char) : (segments text).flatMap Segment.source = text := by
  induction text using segments_induction with
  | nil => rfl
  | call call rest h ih =>
    rw [segments_call call rest h, List.flatMap_cons, ih]
    rfl
  | kept c rest h ih =>
    rw [segments_kept c rest h, List.flatMap_cons, ih]
    rfl

theorem neutralize_call (call rest : List Char) (h : IsCall call) :
    neutralize (call ++ rest) = (Segment.call call).image ++ neutralize rest := by
  rw [neutralize, segments_call call rest h, List.flatMap_cons]
  rfl

theorem neutralize_kept (c : Char) (rest : List Char) (h : lengthAt? (c :: rest) = none) :
    neutralize (c :: rest) = c :: neutralize rest := by
  rw [neutralize, segments_kept c rest h, List.flatMap_cons]
  rfl

theorem lengthAt?_eq_none (c : Char) (text : List Char) (h : c ≠ 'i') :
    lengthAt? (c :: text) = none := by
  cases hl : lengthAt? (c :: text) with
  | none => rfl
  | some n =>
    obtain ⟨call, rest, ⟨inside, rfl, -, -⟩, heq, -⟩ := exists_call _ _ hl
    have hc : c = 'i' := by
      rw [List.append_assoc] at heq
      exact (List.cons.inj heq).1
    contradiction

theorem segments_append_of_not_mem (lead text : List Char) (h : 'i' ∉ lead) :
    segments (lead ++ text) = lead.map .kept ++ segments text := by
  induction lead with
  | nil => rfl
  | cons c lead ih =>
    have hc : c ≠ 'i' := fun he => h (he ▸ List.mem_cons_self)
    rw [List.cons_append, segments_kept _ _ (lengthAt?_eq_none _ _ hc),
      ih (fun hm => h (List.mem_cons_of_mem _ hm)), List.map_cons, List.cons_append]

theorem flatMap_source_kept (lead : List Char) :
    (lead.map Segment.kept).flatMap Segment.source = lead := by
  induction lead with
  | nil => rfl
  | cons c lead ih => rw [List.map_cons, List.flatMap_cons, ih]; rfl

theorem flatMap_image_kept (lead : List Char) :
    (lead.map Segment.kept).flatMap Segment.image = lead := by
  induction lead with
  | nil => rfl
  | cons c lead ih => rw [List.map_cons, List.flatMap_cons, ih]; rfl

theorem neutralize_append_of_not_mem (lead text : List Char) (h : 'i' ∉ lead) :
    neutralize (lead ++ text) = lead ++ neutralize text := by
  rw [neutralize, segments_append_of_not_mem lead text h, List.flatMap_append, flatMap_image_kept,
    neutralize]

/-- The characters that calls are replaced by. -/
def isFiller (c : Char) : Bool := c = '{' || c = '}' || c = '\n'

theorem isFiller_of_mem_opening (c : Char) (h : c ∈ opening) : isFiller c = false := by
  have hall : opening.all (fun c => !isFiller c) = true := by decide
  have hc := List.all_eq_true.mp hall c h
  rwa [Bool.not_eq_true'] at hc

theorem isFiller_of_mem_image (text : List Char) (c : Char)
    (h : c ∈ (Segment.call text).image) : isFiller c = true := by
  simp only [Segment.image, List.mem_cons, List.mem_replicate] at h
  rcases h with rfl | rfl | ⟨-, rfl⟩ <;> rfl

theorem breaks_image (s : Segment) : Lines.breaks s.image = Lines.breaks s.source := by
  cases s with
  | kept c => rfl
  | call text =>
    simp only [Segment.image, Segment.source, Lines.breaks_cons, Char.reduceEq, if_false,
      Nat.add_zero]
    exact List.count_replicate_self

theorem breaks_flatMap_image (parts : List Segment) :
    Lines.breaks (parts.flatMap Segment.image) = Lines.breaks (parts.flatMap Segment.source) := by
  induction parts with
  | nil => rfl
  | cons s parts ih =>
    rw [List.flatMap_cons, List.flatMap_cons, Lines.breaks_append, Lines.breaks_append,
      breaks_image, ih]

/-- The byte at `o` of a text lies outside all calls, and stands at `i` once they are replaced. -/
def Carries (text : List Char) (o i : Nat) : Prop :=
  ∃ front c back, segments text = front ++ .kept c :: back ∧
    o = byteSize (front.flatMap Segment.source) ∧ i = byteSize (front.flatMap Segment.image)

theorem Carries.lineAt_eq {text : List Char} {o i : Nat} (h : Carries text o i) :
    Lines.lineAt (neutralize text) i = Lines.lineAt text o := by
  obtain ⟨front, c, back, hs, rfl, rfl⟩ := h
  have hsource := flatMap_source text
  have himage : neutralize text = (segments text).flatMap Segment.image := rfl
  rw [hs, List.flatMap_append] at hsource himage
  rw [himage, Lines.lineAt_append, breaks_flatMap_image]
  conv => rhs; rw [← hsource]
  rw [Lines.lineAt_append]

theorem Carries.le_byteSize {text : List Char} {o i : Nat} (h : Carries text o i) :
    o ≤ byteSize text := by
  obtain ⟨front, c, back, hs, rfl, -⟩ := h
  have hsource := flatMap_source text
  rw [hs, List.flatMap_append] at hsource
  rw [← hsource, byteSize_append]
  omega

theorem Carries.append_of_not_mem {text : List Char} {o i : Nat} (h : Carries text o i)
    (lead : List Char) (hl : 'i' ∉ lead) :
    Carries (lead ++ text) (byteSize lead + o) (byteSize lead + i) := by
  obtain ⟨front, c, back, hs, rfl, rfl⟩ := h
  refine ⟨lead.map .kept ++ front, c, back, ?_, ?_, ?_⟩
  · rw [segments_append_of_not_mem lead text hl, hs, List.append_assoc]
  · rw [List.flatMap_append, flatMap_source_kept, byteSize_append]
  · rw [List.flatMap_append, flatMap_image_kept, byteSize_append]

theorem exists_kept (parts : List Segment) (before behind : List Char) (q : Char)
    (hq : isFiller q = false) (h : parts.flatMap Segment.image = before ++ q :: behind) :
    ∃ front back, parts = front ++ .kept q :: back ∧ front.flatMap Segment.image = before := by
  induction parts generalizing before with
  | nil => simp at h
  | cons s parts ih =>
    rw [List.flatMap_cons] at h
    cases s with
    | kept c =>
      cases before with
      | nil =>
        obtain ⟨rfl, -⟩ := List.cons.inj h
        exact ⟨[], parts, rfl, rfl⟩
      | cons b before =>
        obtain ⟨rfl, ht⟩ := List.cons.inj h
        obtain ⟨front, back, rfl, rfl⟩ := ih before ht
        exact ⟨.kept c :: front, back, rfl, rfl⟩
    | call text =>
      have hn : q ∉ (Segment.call text).image := by
        intro hm
        rw [isFiller_of_mem_image text q hm] at hq
        contradiction
      obtain ⟨between, rfl, ht⟩ := exists_eq_append_of_not_mem _ _ _ _ q hn h
      obtain ⟨front, back, rfl, rfl⟩ := ih between ht
      exact ⟨.call text :: front, back, rfl, rfl⟩

/-- What is read and is no filler was written, outside all calls. -/
theorem exists_carries (text before behind : List Char) (q : Char) (hq : isFiller q = false)
    (h : neutralize text = before ++ q :: behind) : ∃ o, Carries text o (byteSize before) := by
  obtain ⟨front, back, hs, hb⟩ := exists_kept (segments text) before behind q hq h
  exact ⟨_, front, q, back, hs, rfl, by rw [hb]⟩

theorem mem_of_mem_neutralize (text : List Char) (c : Char) (hc : isFiller c = false)
    (h : c ∈ neutralize text) : c ∈ text := by
  obtain ⟨before, behind, heq⟩ := List.append_of_mem h
  obtain ⟨front, back, hs, -⟩ := exists_kept (segments text) before behind c hc heq
  have hsource := flatMap_source text
  rw [hs, List.flatMap_append, List.flatMap_cons] at hsource
  rw [← hsource]
  exact List.mem_append_right _ List.mem_cons_self

theorem exists_written (word text rest : List Char) (hw : ∀ c ∈ word, isFiller c = false)
    (h : neutralize text = word ++ rest) :
    ∃ behind, text = word ++ behind ∧ rest = neutralize behind := by
  induction word generalizing text with
  | nil => exact ⟨text, rfl, h.symm⟩
  | cons w word ih =>
    cases text with
    | nil => contradiction
    | cons c text =>
      cases hl : lengthAt? (c :: text) with
      | none =>
        rw [neutralize_kept c text hl] at h
        obtain ⟨rfl, ht⟩ := List.cons.inj h
        obtain ⟨behind, rfl, hr⟩ := ih text (fun d hd => hw d (List.mem_cons_of_mem _ hd)) ht
        exact ⟨behind, rfl, hr⟩
      | some n =>
        obtain ⟨call, behind, hcall, heq, -⟩ := exists_call _ _ hl
        rw [heq, neutralize_call call behind hcall] at h
        have hf := hw w List.mem_cons_self
        rw [← (List.cons.inj h).1] at hf
        contradiction

/-- No call is at the front of what is read. If there was one, its `import(` was written, and so
was its closing parenthesis, so a call would have been replaced there. -/
theorem neutralize_ne_call_append (text call rest : List Char) (h : IsCall call) :
    neutralize text ≠ call ++ rest := by
  intro heq
  obtain ⟨inside, rfl, hne, hin⟩ := h
  rw [List.append_assoc] at heq
  obtain ⟨behind, rfl, hread⟩ := exists_written opening text _ isFiller_of_mem_opening heq
  have hclose : ')' ∈ behind := by
    apply mem_of_mem_neutralize behind ')' rfl
    rw [← hread]
    simp
  obtain ⟨first, last, rfl, hfirst⟩ := List.eq_append_cons_of_mem hclose
  cases first with
  | nil =>
    -- Nothing was written between the parentheses, so nothing is read there either.
    rw [List.nil_append, neutralize_kept _ _ (lengthAt?_eq_none _ _ (by decide))] at hread
    cases inside with
    | nil => contradiction
    | cons c inside =>
      have hc : c = ')' := (List.cons.inj hread).1
      exact hin (hc ▸ List.mem_cons_self)
  | cons c first =>
    have hcall : IsCall (opening ++ (c :: first ++ [')'])) :=
      ⟨c :: first, rfl, List.cons_ne_nil c first, hfirst⟩
    have hwritten : opening ++ (c :: first ++ ')' :: last) =
        opening ++ (c :: first ++ [')']) ++ last := by
      simp only [List.append_assoc, List.singleton_append]
    rw [hwritten, neutralize_call _ _ hcall] at heq
    exact absurd (List.cons.inj heq).1 (by decide)

theorem occursIn_call (call rest : List Char) (h : IsCall call) :
    occursIn (call ++ rest) = true := by
  rw [occursIn, segments_call call rest h, List.any_cons]
  rfl

theorem occursIn_kept (c : Char) (rest : List Char) (h : lengthAt? (c :: rest) = none) :
    occursIn (c :: rest) = occursIn rest := by
  rw [occursIn, segments_kept c rest h, List.any_cons]
  rfl

theorem occursIn_iff (text : List Char) : occursIn text = true ↔
    ∃ before call behind, IsCall call ∧ text = before ++ (call ++ behind) := by
  constructor
  · intro h
    induction text using segments_induction with
    | nil => contradiction
    | call call rest hc ih => exact ⟨[], call, rest, hc, rfl⟩
    | kept c rest hl ih =>
      rw [occursIn_kept c rest hl] at h
      obtain ⟨before, call, behind, hc, rfl⟩ := ih h
      exact ⟨c :: before, call, behind, hc, rfl⟩
  · rintro ⟨before, call, behind, hc, heq⟩
    induction text using segments_induction generalizing before with
    | nil =>
      have hlen := congrArg List.length heq
      have hpos := length_pos_of_isCall call hc
      simp only [List.length_nil, List.length_append] at hlen
      omega
    | call first rest hf ih => exact occursIn_call first rest hf
    | kept c rest hl ih =>
      cases before with
      | nil =>
        rw [heq, List.nil_append, lengthAt?_append call behind hc] at hl
        contradiction
      | cons b before =>
        rw [occursIn_kept c rest hl]
        exact ih before (List.cons.inj heq).2

theorem occursIn_append (before part behind : List Char) (h : occursIn part = true) :
    occursIn (before ++ part ++ behind) = true := by
  obtain ⟨front, call, back, hc, rfl⟩ := (occursIn_iff part).mp h
  refine (occursIn_iff _).mpr ⟨before ++ front, call, back ++ behind, hc, ?_⟩
  simp only [List.append_assoc]

/-- What is read holds no call: neither one that was written, nor one that the replacement of
others brings together. -/
theorem occursIn_neutralize (text : List Char) : occursIn (neutralize text) = false := by
  rw [← Bool.not_eq_true, occursIn_iff]
  rintro ⟨before, call, behind, hc, heq⟩
  induction text using segments_induction generalizing before with
  | nil =>
    have hlen := congrArg List.length heq
    have hpos := length_pos_of_isCall call hc
    simp only [neutralize, segments_nil, List.flatMap_nil, List.length_nil,
      List.length_append] at hlen
    omega
  | call first rest hf ih =>
    obtain ⟨inside, rfl, -, -⟩ := hc
    rw [neutralize_call first rest hf] at heq
    -- A call begins with `i`, so none begins in what stands for another one.
    have hn : 'i' ∉ (Segment.call first).image := by
      intro hm
      exact absurd (isFiller_of_mem_image first 'i' hm) (by decide)
    obtain ⟨between, -, hr⟩ := exists_eq_append_of_not_mem _ _ _ _ 'i' hn heq
    exact ih between hr
  | kept c rest hl ih =>
    cases before with
    | nil => exact neutralize_ne_call_append (c :: rest) call behind hc heq
    | cons b before =>
      rw [neutralize_kept c rest hl] at heq
      exact ih before (List.cons.inj heq).2

theorem neutralize_eq_self (text : List Char) (h : occursIn text = false) :
    neutralize text = text := by
  induction text using segments_induction with
  | nil => rfl
  | call call rest hc ih =>
    rw [occursIn_call call rest hc] at h
    contradiction
  | kept c rest hl ih =>
    rw [occursIn_kept c rest hl] at h
    rw [neutralize_kept c rest hl, ih h]

/-- What stands for a call is shorter: each line feed of it was inside the call. -/
theorem length_image_lt (call : List Char) (h : IsCall call) :
    (Segment.call call).image.length < call.length := by
  obtain ⟨inside, rfl, -, -⟩ := h
  have hopening : opening.length = 7 ∧ Lines.breaks opening = 0 := by decide
  have hclose : Lines.breaks [')'] = 0 := by decide
  have hinside : Lines.breaks inside ≤ inside.length := List.count_le_length
  simp only [Segment.image, Lines.breaks_append, List.length_cons, List.length_replicate,
    List.length_append, List.length_nil]
  omega

theorem length_neutralize_le (text : List Char) : (neutralize text).length ≤ text.length := by
  induction text using segments_induction with
  | nil => exact Nat.le_refl _
  | call call rest hc ih =>
    have := length_image_lt call hc
    rw [neutralize_call call rest hc, List.length_append, List.length_append]
    omega
  | kept c rest hl ih =>
    rw [neutralize_kept c rest hl]
    exact Nat.succ_le_succ ih

theorem length_neutralize_lt (text : List Char) (h : occursIn text = true) :
    (neutralize text).length < text.length := by
  induction text using segments_induction with
  | nil => contradiction
  | call call rest hc ih =>
    have := length_image_lt call hc
    have := length_neutralize_le rest
    rw [neutralize_call call rest hc, List.length_append, List.length_append]
    omega
  | kept c rest hl ih =>
    rw [occursIn_kept c rest hl] at h
    rw [neutralize_kept c rest hl]
    exact Nat.succ_lt_succ (ih h)

theorem neutralize_eq_self_iff (text : List Char) :
    neutralize text = text ↔ occursIn text = false := by
  refine ⟨?_, neutralize_eq_self text⟩
  intro h
  by_contra hoccurs
  have hlt := length_neutralize_lt text (Bool.not_eq_false _ ▸ hoccurs)
  rw [h] at hlt
  exact Nat.lt_irrefl _ hlt

theorem occursIn_iff_within (text : List Char) :
    occursIn text = true ↔ ∃ call, IsCall call ∧ call <:+: text := by
  rw [occursIn_iff]
  constructor
  · rintro ⟨before, call, behind, hc, rfl⟩
    exact ⟨call, hc, before, behind, List.append_assoc before call behind⟩
  · rintro ⟨call, hc, before, behind, rfl⟩
    exact ⟨before, call, behind, hc, List.append_assoc before call behind⟩

/-- No call is left in what is read, so reading it once more changes nothing; and a text is read
otherwise than it was written exactly if a call stands in it. -/
theorem neutralize_leaves_no_call (text : List Char) :
    (∀ call, IsCall call → ¬call <:+: neutralize text) ∧
      neutralize (neutralize text) = neutralize text ∧
      (neutralize text ≠ text ↔ ∃ call, IsCall call ∧ call <:+: text) := by
  have hnone := occursIn_neutralize text
  refine ⟨?_, neutralize_eq_self _ hnone, ?_⟩
  · intro call hc hin
    rw [(occursIn_iff_within _).mpr ⟨call, hc, hin⟩] at hnone
    contradiction
  · rw [← occursIn_iff_within, Ne, neutralize_eq_self_iff, Bool.not_eq_false]

/-- Empty parentheses are no call, and neither are open ones. -/
example : neutralize "import()import(a)import(b".toList = "import()\x7b\x7dimport(b".toList := by
  decide

end ImportCall

end Glean
