import Glean.Lines

set_option autoImplicit false

/-!
# Lines of a text and of its parts

Line numbers add up over a text that is cut at a byte offset, and the index of a text finds by
bisection what `lineAt` finds by counting.
-/
namespace Glean

theorem takeBytes_zero (text : List Char) : takeBytes 0 text = [] := by
  cases text <;> rfl

theorem takeBytes_nil (n : Nat) : takeBytes n [] = [] := by
  cases n <;> rfl

theorem takeBytes_cons (n : Nat) (c : Char) (text : List Char) (h : 0 < n) :
    takeBytes n (c :: text) = c :: takeBytes (n - c.utf8Size) text := by
  cases n with
  | zero => omega
  | succ n => rfl

theorem takeBytes_isPrefix (text : List Char) (n : Nat) : takeBytes n text <+: text := by
  induction text generalizing n with
  | nil => exact ⟨[], (List.append_nil _).trans (takeBytes_nil n)⟩
  | cons c text ih =>
    by_cases hn : n = 0
    · rw [hn, takeBytes_zero]
      exact List.nil_prefix
    · rw [takeBytes_cons n c text (by omega)]
      exact List.cons_prefix_cons.mpr ⟨rfl, ih _⟩

theorem takeBytes_append_add (s t : List Char) (n : Nat) :
    takeBytes (byteSize s + n) (s ++ t) = s ++ takeBytes n t := by
  induction s with
  | nil => simp
  | cons c s ih =>
    have hc := Char.utf8Size_pos c
    have hn : byteSize (c :: s) + n - c.utf8Size = byteSize s + n := by
      rw [byteSize_cons]
      omega
    rw [List.cons_append, takeBytes_cons _ _ _ (by rw [byteSize_cons]; omega), hn, ih,
      List.cons_append]

theorem takeBytes_byteSize_append (s t : List Char) : takeBytes (byteSize s) (s ++ t) = s := by
  have h := takeBytes_append_add s t 0
  rwa [Nat.add_zero, takeBytes_zero, List.append_nil] at h

theorem takeBytes_append_of_le (s t : List Char) (n : Nat) (h : n ≤ byteSize s) :
    takeBytes n (s ++ t) = takeBytes n s := by
  induction s generalizing n with
  | nil =>
    have hn : n = 0 := Nat.le_zero.mp h
    rw [hn, takeBytes_zero, takeBytes_zero]
  | cons c s ih =>
    rw [byteSize_cons] at h
    by_cases hn : n = 0
    · rw [hn, takeBytes_zero, takeBytes_zero]
    · rw [List.cons_append, takeBytes_cons n c _ (by omega), takeBytes_cons n c _ (by omega),
        ih (n - c.utf8Size) (by omega)]

theorem takeBytes_min (text : List Char) (n : Nat) :
    takeBytes (min n (byteSize text)) text = takeBytes n text := by
  induction text generalizing n with
  | nil => rw [takeBytes_nil, takeBytes_nil]
  | cons c text ih =>
    have hc := Char.utf8Size_pos c
    by_cases hn : n = 0
    · subst n
      rw [Nat.zero_min]
    · have hm : min n (byteSize (c :: text)) - c.utf8Size =
          min (n - c.utf8Size) (byteSize text) := by
        rw [byteSize_cons]
        omega
      rw [takeBytes_cons _ _ _ (by rw [byteSize_cons]; omega), takeBytes_cons _ _ _ (by omega), hm,
        ih]

/-- A text is cut at the last place of a character in it. -/
theorem exists_last_cut (text : List Char) (c : Char) (h : c ∈ text) :
    ∃ front back, text = front ++ c :: back ∧ c ∉ back := by
  obtain ⟨back, front, hreverse, hback⟩ := List.eq_append_cons_of_mem (List.mem_reverse.mpr h)
  refine ⟨front.reverse, back.reverse, ?_, fun hmem => hback (List.mem_reverse.mp hmem)⟩
  have hboth := congrArg List.reverse hreverse
  rw [List.reverse_reverse] at hboth
  simpa using hboth

/-- All behind the last place of a character is taken, looking from the end. -/
theorem takeWhile_reverse_append (back rest : List Char) (c : Char) (h : c ∉ back) :
    (back.reverse ++ rest).takeWhile (· ≠ c) = back.reverse ++ rest.takeWhile (· ≠ c) := by
  apply List.takeWhile_append_of_pos
  intro other hmem
  have hne : other ≠ c := fun he => h (he ▸ List.mem_reverse.mp hmem)
  exact decide_eq_true hne

namespace Lines

@[simp] theorem breaks_nil : breaks [] = 0 := rfl

@[simp] theorem breaks_append (s t : List Char) : breaks (s ++ t) = breaks s + breaks t :=
  List.count_append

theorem breaks_cons (c : Char) (text : List Char) :
    breaks (c :: text) = breaks text + if c = '\n' then 1 else 0 := by
  by_cases h : c = '\n'
  · simp [breaks, h]
  · simp [breaks, h]

theorem lineAt_append_add (s t : List Char) (offset : Nat) :
    lineAt (s ++ t) (byteSize s + offset) = breaks s + lineAt t offset := by
  unfold lineAt
  rw [takeBytes_append_add, breaks_append]
  omega

theorem lineAt_append (s t : List Char) : lineAt (s ++ t) (byteSize s) = breaks s + 1 := by
  unfold lineAt
  rw [takeBytes_byteSize_append]

theorem lineAt_append_of_le (s t : List Char) (offset : Nat) (h : offset ≤ byteSize s) :
    lineAt (s ++ t) offset = lineAt s offset := by
  unfold lineAt
  rw [takeBytes_append_of_le s t offset h]

theorem lineAt_within (s t : List Char) (offset : Nat) :
    lineAt (s ++ t) (byteSize s + offset) =
      lineAt t offset + (lineAt (s ++ t) (byteSize s) - 1) := by
  rw [lineAt_append_add, lineAt_append]
  omega

theorem breaks_takeBytes_le (text : List Char) (i j : Nat) (h : i ≤ j) :
    breaks (takeBytes i text) ≤ breaks (takeBytes j text) := by
  induction text generalizing i j with
  | nil => exact Nat.le_of_eq (by rw [takeBytes_nil, takeBytes_nil])
  | cons c text ih =>
    by_cases hi : i = 0
    · rw [hi, takeBytes_zero]
      exact Nat.zero_le _
    · have := ih (i - c.utf8Size) (j - c.utf8Size) (by omega)
      rw [takeBytes_cons i c text (by omega), takeBytes_cons j c text (by omega), breaks_cons,
        breaks_cons]
      omega

theorem lineAt_le (text : List Char) (i j : Nat) (h : i ≤ j) : lineAt text i ≤ lineAt text j :=
  Nat.succ_le_succ (breaks_takeBytes_le text i j h)

theorem lineAt_le_breaks (text : List Char) (offset : Nat) :
    lineAt text offset ≤ breaks text + 1 :=
  Nat.succ_le_succ ((takeBytes_isPrefix text offset).sublist.count_le _)

theorem lt_of_mem_startsFrom (text : List Char) (offset start : Nat)
    (h : start ∈ startsFrom offset text) : offset < start := by
  induction text generalizing offset with
  | nil => simp [startsFrom] at h
  | cons c text ih =>
    have hc := Char.utf8Size_pos c
    have later (hs : start ∈ startsFrom (offset + c.utf8Size) text) : offset < start := by
      have := ih _ hs
      omega
    simp only [startsFrom] at h
    split at h
    · rcases List.mem_cons.mp h with h | h
      · omega
      · exact later h
    · exact later h

theorem pairwise_startsFrom (text : List Char) (offset : Nat) :
    (startsFrom offset text).Pairwise (· < ·) := by
  induction text generalizing offset with
  | nil => exact List.Pairwise.nil
  | cons c text ih =>
    simp only [startsFrom]
    split
    · exact List.Pairwise.cons (fun start hs => lt_of_mem_startsFrom text _ start hs) (ih _)
    · exact ih _

theorem countP_startsFrom_eq_zero (text : List Char) (offset bound : Nat) (h : bound ≤ offset) :
    (startsFrom offset text).countP (· ≤ bound) = 0 := by
  rw [List.countP_eq_zero]
  intro start hs
  have := lt_of_mem_startsFrom text offset start hs
  simp only [decide_eq_true_eq]
  omega

theorem countP_startsFrom (text : List Char) (offset n : Nat) :
    (startsFrom offset text).countP (· ≤ offset + n) = breaks (takeBytes n text) := by
  induction text generalizing offset n with
  | nil => rw [takeBytes_nil]; rfl
  | cons c text ih =>
    by_cases hn : n = 0
    · subst n
      exact countP_startsFrom_eq_zero _ _ _ (Nat.le_refl _)
    · rw [takeBytes_cons n c text (by omega), breaks_cons]
      have tail : (startsFrom (offset + c.utf8Size) text).countP (· ≤ offset + n) =
          breaks (takeBytes (n - c.utf8Size) text) := by
        by_cases hs : c.utf8Size ≤ n
        · rw [← ih (offset + c.utf8Size) (n - c.utf8Size)]
          congr 2
          funext start
          congr 2
          omega
        · rw [countP_startsFrom_eq_zero _ _ _ (by omega), show n - c.utf8Size = 0 by omega,
            takeBytes_zero, breaks_nil]
      by_cases hc : c = '\n'
      · have h1 : offset + c.utf8Size ≤ offset + n := by
          subst c
          show offset + 1 ≤ offset + n
          omega
        simp only [startsFrom, if_pos hc, List.countP_cons, tail, decide_eq_true h1, if_true]
      · simp only [startsFrom, if_neg hc, tail, Nat.add_zero]

/-- How many members a list has up to a place where a condition ends to hold. -/
theorem countP_eq_of_split (p : Nat → Bool) (xs : List Nat) (n : Nat) (hn : n ≤ xs.length)
    (below : ∀ i (h : i < xs.length), i < n → p xs[i])
    (above : ∀ i (h : i < xs.length), n ≤ i → ¬ p xs[i]) : xs.countP p = n := by
  have front : (xs.take n).countP p = n := by
    have h : (xs.take n).countP p = (xs.take n).length := by
      rw [List.countP_eq_length]
      intro x hx
      obtain ⟨i, hi, rfl⟩ := List.mem_iff_getElem.mp hx
      rw [List.length_take] at hi
      rw [List.getElem_take]
      exact below i (by omega) (by omega)
    rw [h, List.length_take]
    omega
  have back : (xs.drop n).countP p = 0 := by
    rw [List.countP_eq_zero]
    intro x hx
    obtain ⟨i, hi, rfl⟩ := List.mem_iff_getElem.mp hx
    rw [List.length_drop] at hi
    rw [List.getElem_drop]
    exact above (n + i) (by omega) (by omega)
  calc
    xs.countP p = (xs.take n ++ xs.drop n).countP p := by rw [List.take_append_drop]
    _ = n := by rw [List.countP_append, front, back, Nat.add_zero]

/-- What is known at every step of a bisection. -/
structure Bisecting (starts : Array Nat) (bound lo hi : Nat) : Prop where
  le : lo ≤ hi
  le_size : hi ≤ starts.size
  below : ∀ i (h : i < starts.size), i < lo → starts[i] ≤ bound
  above : ∀ i (h : i < starts.size), hi ≤ i → bound < starts[i]

/-- A bisection ends at a place up to which all is within the bound and behind which nothing is. -/
theorem bisecting_bisect (starts : Array Nat) (bound lo hi : Nat)
    (sorted : starts.toList.Pairwise (· < ·)) (h : Bisecting starts bound lo hi) :
    Bisecting starts bound (bisect starts bound lo hi) (bisect starts bound lo hi) := by
  have mono : ∀ i j (hi : i < starts.size) (hj : j < starts.size), i ≤ j →
      starts[i] ≤ starts[j] := by
    intro i j hi hj hij
    rcases Nat.eq_or_lt_of_le hij with rfl | hlt
    · exact Nat.le_refl _
    · have := List.pairwise_iff_getElem.mp sorted i j (by simpa using hi) (by simpa using hj) hlt
      simpa using Nat.le_of_lt this
  fun_induction bisect starts bound lo hi with
  | case1 lo hi hlt middle hm ih =>
    have hms : middle < starts.size := by have := h.le_size; omega
    rw [Array.getD_eq_getD_getElem?, Array.getElem?_eq_getElem hms, Option.getD_some] at hm
    apply ih
    exact ⟨by omega, h.le_size, fun i hi' him => Nat.le_trans (mono i middle hi' hms (by omega)) hm,
      h.above⟩
  | case2 lo hi hlt middle hm ih =>
    have hms : middle < starts.size := by have := h.le_size; omega
    rw [Array.getD_eq_getD_getElem?, Array.getElem?_eq_getElem hms, Option.getD_some] at hm
    apply ih
    exact ⟨by omega, by omega, h.below,
      fun i hi' him => Nat.lt_of_lt_of_le (by omega) (mono middle i hms hi' him)⟩
  | case3 lo hi hlt =>
    have heq : lo = hi := by have := h.le; omega
    subst hi
    exact h

theorem Bisecting.le_iff {starts : Array Nat} {bound n : Nat} (h : Bisecting starts bound n n)
    (i : Nat) (hi : i < starts.size) : starts[i] ≤ bound ↔ i < n := by
  constructor
  · intro hle
    rcases Nat.lt_or_ge i n with hlt | hge
    · exact hlt
    · exact absurd (h.above i hi hge) (Nat.not_lt.mpr hle)
  · exact h.below i hi

theorem Bisecting.countP_eq {starts : Array Nat} {bound n : Nat} (h : Bisecting starts bound n n) :
    starts.toList.countP (· ≤ bound) = n := by
  apply countP_eq_of_split
  · simpa using h.le_size
  · intro i hi hlt
    simpa using h.below i (by simpa using hi) hlt
  · intro i hi hle
    have := h.above i (by simpa using hi) hle
    simpa using this

/-- What an index finds by bisection. -/
theorem Index.bisecting_ofText (text : List Char) (offset : Nat) :
    Bisecting (ofText text).starts (min offset (ofText text).size)
      ((ofText text).lineAt offset - 1) ((ofText text).lineAt offset - 1) := by
  apply bisecting_bisect
  · exact pairwise_startsFrom text 0
  · exact ⟨Nat.zero_le _, Nat.le_refl _, fun _ _ h => absurd h (Nat.not_lt_zero _), by omega⟩

theorem Index.lineAt_ofText (text : List Char) (offset : Nat) :
    (Index.ofText text).lineAt offset = Lines.lineAt text offset := by
  have hcount := (Index.bisecting_ofText text offset).countP_eq
  have hbreaks := countP_startsFrom text 0 (min offset (byteSize text))
  rw [Nat.zero_add, takeBytes_min] at hbreaks
  change (startsFrom 0 text).countP (· ≤ min offset (byteSize text)) = _ at hcount
  have hpos : 0 < (Index.ofText text).lineAt offset := Nat.succ_pos _
  rw [Lines.lineAt, ← hbreaks, hcount]
  omega

end Lines

end Glean
