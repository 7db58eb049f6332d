import Glean.Proofs.DataReading

set_option autoImplicit false

/-!
# Values as expressions

Every value of data is read as an expression, by induction on how it is made. The literals found on
the way are its strings.
-/
namespace Glean.Script.Parser

open Data

section

variable (rest : List Char) (o : Nat) (ls : List Literal)

theorem run_upcomingChar : upcomingChar.run (.ready rest o ls) =
    some (rest.headD '\x00', .ready rest o ls) := rfl

theorem run_upcomingChar_append (g : Gap) (h : BeginsToken rest) :
    upcomingChar.run (.fresh (g.text ++ rest) o ls) =
      some (rest.headD '\x00', .ready rest (o + byteSize g.text) ls) :=
  passesGap_upcoming.bind (fun text => return text.headD '\x00') g rest o ls h

theorem run_hasSign_comma : (hasSign ",").run (.ready (',' :: rest) o ls) =
    some (true, .fresh rest (o + 1) ls) := rfl

theorem run_hasSign_of_ne (h : rest.head? ≠ some ',') (a : Ahead) :
    (hasSign ",").run ⟨.plain, rest, o, some a, ls⟩ =
      some (false, ⟨.plain, rest, o, some a, ls⟩) := by
  have hbegins : ",".toList.isPrefixOf rest = false := by
    cases rest with
    | nil => rfl
    | cons c rest =>
      have hc : c ≠ ',' := fun hc => h (by rw [hc]; rfl)
      change (decide (',' = c) && _) = false
      rw [decide_eq_false (Ne.symm hc), Bool.false_and]
  have hcomes : (comes ",").run ⟨.plain, rest, o, some a, ls⟩ =
      some (false, ⟨.plain, rest, o, some a, ls⟩) := by
    change some (",".toList.isPrefixOf rest, _) = _
    rw [hbegins]
  rw [hasSign, run_bind_some hcomes]
  rfl

end

section

variable {σ : Type} (close : Char) (missing : σ → σ) (item : σ → Parser σ) (s : σ) (g : Gap)
  (o : Nat) (ls : List Literal)

theorem run_items_empty (rest : List Char) (h : BeginsToken (close :: rest)) :
    (items close missing item s).run (.fresh (g.text ++ close :: rest) o ls) =
      some (s, .fresh rest (o + byteSize g.text + close.utf8Size) ls) := by
  apply run_iterate_last
  have hpass := run_pass [close] rest (o + byteSize g.text) (some .token) ls
  rw [run_bind_some (run_upcomingChar_append _ o ls g h), List.headD_cons, if_pos rfl]
  exact run_bind_some hpass _

variable (text : List Char) (c : Char) (hc : text.head? = some c) (hclose : c ≠ close)
  (hcomma : c ≠ ',') (h : BeginsToken text) {t : σ} {stop : Nat} {found : List Literal}
  (rest : List Char)

include hc hclose hcomma h

theorem run_items_last (hsign : close ≠ ',')
    (hitem : (item s).run (.ready text (o + byteSize g.text) ls) =
      some (t, .ready (close :: rest) stop found)) :
    (items close missing item s).run (.fresh (g.text ++ text) o ls) =
      some (t, .fresh rest (stop + close.utf8Size) found) := by
  apply run_iterate_last
  have hhead : text.headD '\x00' = c := by
    rw [List.headD_eq_head?_getD, hc, Option.getD_some]
  have hpass := run_pass [close] rest stop (some .token) found
  have hne : (close :: rest).head? ≠ some ',' := fun h => hsign (Option.some.inj h)
  rw [run_bind_some (run_upcomingChar_append _ o ls g h), hhead, if_neg hclose, if_neg hcomma,
    run_bind_some hitem, run_bind_some (run_hasSign_of_ne _ stop found hne .token),
    if_neg (by decide), run_bind_some (run_upcomingChar _ stop found), List.headD_cons,
    decide_eq_true rfl]
  -- The closing sign is required, and passed.
  change (pass 1 >>= fun _ => return (t, false)).run _ = _
  exact run_bind_some hpass _

theorem run_items_more (hitem : (item s).run (.ready text (o + byteSize g.text) ls) =
      some (t, .ready (',' :: rest) stop found)) (hrest : rest.length < text.length)
    {r : σ × Cursor}
    (hr : (items close missing item t).run (.fresh rest (stop + 1) found) = some r) :
    (items close missing item s).run (.fresh (g.text ++ text) o ls) = some r := by
  have hhead : text.headD '\x00' = c := by
    rw [List.headD_eq_head?_getD, hc, Option.getD_some]
  have hlength : rest.length < (g.text ++ text).length := by
    rw [List.length_append]
    omega
  refine run_iterate_more ?_ hlength hr
  rw [run_bind_some (run_upcomingChar_append _ o ls g h), hhead, if_neg hclose, if_neg hcomma,
    run_bind_some hitem, run_bind_some (run_hasSign_comma rest stop found), if_pos rfl]
  rfl

end

/-- A string as it is found by a reading. -/
def literal (s : Standing) : Literal := ⟨s.start, s.string.text⟩

/-- The literals passed behind some strings. -/
def found (strings : List Standing) (ls : List Literal) : List Literal :=
  (strings.map literal).reverse ++ ls

theorem found_append (first second : List Standing) (ls : List Literal) :
    found (first ++ second) ls = found second (found first ls) := by
  simp only [found, List.map_append, List.reverse_append, List.append_assoc]

/-- Whether a value is read by a family of parsers, wherever it stands. -/
def Reads (parts : Parts) (v : Value) : Prop :=
  ∀ (p : Place) (skipped rest : List Char) (a : Ahead), Follows p skipped rest a →
    ∀ (o : Nat) (ls : List Literal), ∃ s, IsSettled s ∧
      (parts (.expression p)).run (.ready (v.text ++ (skipped ++ rest)) o ls) =
        some (s, ⟨.plain, rest, o + byteSize v.text + byteSize skipped, some a,
          found (v.strings o) ls⟩)

/-- The parser of the items of a list. -/
def listItem (parts : Parts) : Kind → Shape → Parser Shape
  | .array => fun s => do
    let isRest ← comes "..."
    let e ← item parts
    return { s with
      expression := s.expression && e.expression
      target := s.target && (if isRest then e.target else e.isPattern) }
  | .object => property parts

theorem array_eq (parts : Parts) : array parts = (do
    sign "["
    let s ← items ']' id (listItem parts .array) { target := true }
    require (s.expression || s.target)
    return { s with primary := s.expression }) := rfl

theorem run_primary_list (parts : Parts) (p : Place) (k : Kind) (text : List Char) (o : Nat)
    (ls : List Literal) (t : Shape) (ht : IsSettled t) (d : Cursor)
    (h : (items k.closing id (listItem parts k) { target := true }).run
      (.fresh text (o + k.opening.utf8Size) ls) = some (t, d)) :
    (primary parts p).run (.ready (k.opening :: text) o ls) =
      some ({ t with primary := t.expression }, d) := by
  have hrequire : (require (t.expression || t.target)).run d = some ((), d) := by
    rw [ht.expression]
    rfl
  cases k with
  | array =>
    dsimp only [Kind.opening, Kind.closing] at h ⊢
    have hsign : (sign "[").run (.ready ('[' :: text) o ls) =
        some ((), .fresh text (o + '['.utf8Size) ls) := rfl
    rw [primary, run_bind_some (run_upcoming ('[' :: text) o ls)]
    change (array parts).run _ = _
    rw [array_eq, run_bind_some hsign, run_bind_some h, run_bind_some hrequire]
    rfl
  | object =>
    dsimp only [Kind.opening, Kind.closing, listItem] at h ⊢
    have hsign : (sign "\x7b").run (.ready ('\x7b' :: text) o ls) =
        some ((), .fresh text (o + '\x7b'.utf8Size) ls) := rfl
    rw [primary, run_bind_some (run_upcoming ('\x7b' :: text) o ls)]
    change (object parts).run _ = _
    rw [object, run_bind_some hsign, run_bind_some h, run_bind_some hrequire]
    rfl

/-- The characters that values begin with. -/
def heads : List Char := "\"[\x7b-tfn".toList ++ digits

theorem exists_head (v : Value) : ∃ c ∈ heads, ∃ text, v.text = c :: text ∧
    ∀ rest, BeginsToken (c :: (text ++ rest)) := by
  cases v with
  | word w =>
    have hleads : ∀ c ∈ ['t', 'f', 'n'], c ∈ heads ∧ c ∈ leads := forall_mem_of_all (by decide)
    obtain ⟨c, hc, text, htext⟩ : ∃ c ∈ ['t', 'f', 'n'], ∃ text, w.text = c :: text := by
      cases w with
      | true => exact ⟨'t', by decide, _, rfl⟩
      | false => exact ⟨'f', by decide, _, rfl⟩
      | null => exact ⟨'n', by decide, _, rfl⟩
    exact ⟨c, (hleads c hc).1, text, htext, fun rest => beginsToken_cons c _ (hleads c hc).2⟩
  | number n =>
    have hfirst := n.whole.digits n.whole.first List.mem_cons_self
    rw [Value.text, Number.text]
    split
    · exact ⟨'-', by decide, n.magnitude, rfl, fun rest => beginsToken_minus _ _ hfirst⟩
    · exact ⟨n.whole.first, List.mem_append_right _ (mem_digits _ hfirst), _, rfl,
        fun rest => beginsToken_digit _ _ hfirst⟩
  | string s => exact ⟨'"', by decide, _, rfl, fun rest => beginsToken_cons _ _ (by decide)⟩
  | empty k gap =>
    cases k with
    | array => exact ⟨'[', by decide, _, rfl, fun rest => beginsToken_cons _ _ (by decide)⟩
    | object => exact ⟨'\x7b', by decide, _, rfl, fun rest => beginsToken_cons _ _ (by decide)⟩
  | list k items =>
    cases k with
    | array => exact ⟨'[', by decide, _, rfl, fun rest => beginsToken_cons _ _ (by decide)⟩
    | object => exact ⟨'\x7b', by decide, _, rfl, fun rest => beginsToken_cons _ _ (by decide)⟩

theorem beginsToken_value (v : Value) (rest : List Char) : BeginsToken (v.text ++ rest) := by
  obtain ⟨c, -, text, htext, hbegins⟩ := exists_head v
  rw [htext]
  exact hbegins rest

/-- No value is spread. -/
theorem run_comes_spread (v : Value) (rest : List Char) (o : Nat) (ls : List Literal) :
    (comes "...").run (.ready (v.text ++ rest) o ls) =
      some (false, .ready (v.text ++ rest) o ls) := by
  obtain ⟨c, hc, text, htext, -⟩ := exists_head v
  have hdot : ∀ c ∈ heads, c ≠ '.' := forall_mem_of_all (by decide)
  have hbegins : "...".toList.isPrefixOf (v.text ++ rest) = false := by
    rw [htext]
    change (decide ('.' = c) && _) = false
    rw [decide_eq_false (Ne.symm (hdot c hc)), Bool.false_and]
  change some ("...".toList.isPrefixOf (v.text ++ rest), _) = _
  rw [hbegins]

theorem run_comes_spread_append (v : Value) (g : Gap) (rest : List Char) (o : Nat)
    (ls : List Literal) : (comes "...").run (.fresh (g.text ++ (v.text ++ rest)) o ls) =
      some (false, .ready (v.text ++ rest) (o + byteSize g.text) ls) := by
  have hpasses := passesGap_upcoming.bind (fun t => return "...".toList.isPrefixOf t) g
    (v.text ++ rest) o ls (beginsToken_value v rest)
  exact hpasses.trans (run_comes_spread v rest _ ls)

section

variable {parts : Parts} {v : Value} (hv : Reads parts v) (g : Gap) (q : Char)
  (hq : q = ',' ∨ q = ']' ∨ q = '\x7d') (rest : List Char) (o : Nat) (ls : List Literal)
  {s : Shape} (hs : IsSettled s)

include hv hq hs

theorem run_arrayItem : ∃ t, IsSettled t ∧
    (listItem parts .array s).run (.ready (v.text ++ (g.text ++ q :: rest)) o ls) =
      some (t, .ready (q :: rest) (o + byteSize v.text + byteSize g.text)
        (found (v.strings o) ls)) := by
  obtain ⟨e, he, hrun⟩ := hv {} g.text (q :: rest) .token (.sign g q hq rest) o ls
  have hcomes := run_comes_spread v (g.text ++ q :: rest) o ls
  refine ⟨_, hs.and he (s.target && e.isPattern), ?_⟩
  have hitem : (item parts).run (.ready (v.text ++ (g.text ++ q :: rest)) o ls) =
      some (e, .ready (q :: rest) (o + byteSize v.text + byteSize g.text)
        (found (v.strings o) ls)) := by
    rw [item, run_bind_some hcomes, if_neg (by decide), hrun]
  rw [listItem, run_bind_some hcomes, run_bind_some hitem]
  rfl

theorem run_propertyValue (after : Gap) : ∃ t, IsSettled t ∧
    (propertyValue parts s).run
        (.ready (':' :: (after.text ++ (v.text ++ (g.text ++ q :: rest)))) o ls) =
      some (t, .ready (q :: rest) (o + 1 + byteSize after.text + byteSize v.text + byteSize g.text)
        (found (v.strings (o + 1 + byteSize after.text)) ls)) := by
  obtain ⟨e, he, hrun⟩ := hv {} g.text (q :: rest) .token (.sign g q hq rest)
    (o + 1 + byteSize after.text) ls
  have hsign : (sign ":").run
      (.ready (':' :: (after.text ++ (v.text ++ (g.text ++ q :: rest)))) o ls) =
        some ((), .fresh (after.text ++ (v.text ++ (g.text ++ q :: rest))) (o + 1) ls) := rfl
  have hcomes := run_comes_spread_append v after (g.text ++ q :: rest) (o + 1) ls
  refine ⟨_, hs.and he (s.target && e.isPattern), ?_⟩
  rw [propertyValue, run_bind_some hsign, run_bind_some hcomes, if_neg (by decide),
    run_bind_some hrun]
  rfl

end

/-- A string is the name of a member, and no word stands in front of it. -/
theorem run_property_of_name (parts : Parts) (s : Shape) (text rest : List Char) (o stop : Nat)
    (ls ls' : List Literal) (d : Cursor)
    (hname : string.run (.ready ('"' :: text) o ls) = some ((), d))
    (hcolon : upcomingChar.run d = some (':', .ready (':' :: rest) stop ls')) :
    (property parts s).run (.ready ('"' :: text) o ls) =
      (propertyValue parts s).run (.ready (':' :: rest) stop ls') := by
  have hspread : (comes "...").run (.ready ('"' :: text) o ls) =
      some (false, .ready ('"' :: text) o ls) := rfl
  have hdialect : dialect.run (.ready ('"' :: text) o ls) =
      some (.plain, .ready ('"' :: text) o ls) := rfl
  have hhead :
      (memberHead (if Dialect.plain.hasTypes then typedMethodWords else methodWords) {}).run
        (.ready ('"' :: text) o ls) = some ([], .ready ('"' :: text) o ls) := rfl
  have hstar : (hasSign "*").run (.ready ('"' :: text) o ls) =
      some (false, .ready ('"' :: text) o ls) := rfl
  have hword : word.run (.ready ('"' :: text) o ls) =
      some ("", .ready ('"' :: text) o ls) := rfl
  have hmember : (memberName parts).run (.ready ('"' :: text) o ls) = some ((), d) := by
    rw [memberName, run_bind_some (run_upcomingChar _ o ls)]
    exact hname
  have hmethod : beginsMethod.run d = some (false, .ready (':' :: rest) stop ls') := by
    rw [beginsMethod, run_bind_some hcolon]
    rfl
  have hrequire : (require true).run (.ready (':' :: rest) stop ls') =
      some ((), .ready (':' :: rest) stop ls') := rfl
  rw [property, run_bind_some (run_upcomingChar _ o ls), run_bind_some hspread,
    if_neg (by decide), List.headD_cons, if_neg (by decide), if_neg (by decide), property.named,
    run_bind_some (run_upcomingChar _ o ls), List.headD_cons, if_neg (by decide)]
  dsimp only
  rw [run_bind_some hdialect, run_bind_some hhead, run_bind_some hstar, run_bind_some hword,
    run_bind_some hmember, run_bind_some hmethod, if_neg (by decide), List.isEmpty_nil,
    Bool.not_false, Bool.and_self, run_bind_some hrequire,
    run_bind_some (run_upcomingChar _ stop ls')]
  rfl

section

variable {parts : Parts} {v : Value} (hv : Reads parts v) (g : Gap) (q : Char)
  (hq : q = ',' ∨ q = ']' ∨ q = '\x7d') (rest : List Char) (o : Nat) (ls : List Literal)
  {s : Shape} (hs : IsSettled s)

include hv hq hs

theorem run_listItem {k : Kind} (label : Label k) : ∃ t, IsSettled t ∧
    (listItem parts k s).run (.ready (label.text ++ (v.text ++ (g.text ++ q :: rest))) o ls) =
      some (t, .ready (q :: rest) (o + byteSize label.text + byteSize v.text + byteSize g.text)
        (found (label.strings o ++ v.strings (o + byteSize label.text)) ls)) := by
  cases label with
  | none => exact run_arrayItem hv g q hq rest o ls hs
  | name n behind after =>
    have htext : (Label.name n behind after).text ++ (v.text ++ (g.text ++ q :: rest)) =
        n.text ++ (behind.text ++ ':' :: (after.text ++ (v.text ++ (g.text ++ q :: rest)))) := by
      simp only [Label.text, List.append_assoc, List.cons_append]
    have hoffset : o + byteSize (Label.name n behind after).text =
        o + byteSize n.text + byteSize behind.text + 1 + byteSize after.text := by
      have hcolon : ':'.utf8Size = 1 := rfl
      simp only [Label.text, byteSize_append, byteSize_cons, hcolon]
      omega
    have hname := run_string
      (behind.text ++ ':' :: (after.text ++ (v.text ++ (g.text ++ q :: rest)))) o ls n
    have hcolon := run_upcomingChar_append
      (':' :: (after.text ++ (v.text ++ (g.text ++ q :: rest)))) (o + byteSize n.text)
      (⟨o, n.text⟩ :: ls) behind (beginsToken_cons _ _ (by decide))
    obtain ⟨t, ht, hrun⟩ := run_propertyValue hv g q hq rest
      (o + byteSize n.text + byteSize behind.text) (⟨o, n.text⟩ :: ls) hs after
    refine ⟨t, ht, ?_⟩
    rw [htext, hoffset, found_append]
    exact (run_property_of_name parts s _ _ o _ ls _ _ hname hcolon).trans hrun

end

theorem Label.begins {k : Kind} (label : Label k) (v : Value) (rest : List Char) :
    BeginsToken (label.text ++ (v.text ++ rest)) ∧
      ∃ c ∈ heads, (label.text ++ (v.text ++ rest)).head? = some c := by
  cases label with
  | none =>
    obtain ⟨c, hc, text, htext, hbegins⟩ := exists_head v
    rw [Label.text, List.nil_append, htext]
    exact ⟨hbegins rest, c, hc, rfl⟩
  | name n behind after => exact ⟨beginsToken_cons _ _ (by decide), '"', by decide, rfl⟩

/-- A value is read if it is so as an operand. -/
theorem reads_of_primary (v : Value) (n : Nat)
    (h : ∀ p rest o ls, IsDelimited rest →
      (operand (ofGoal n) p).run (.ready (v.text ++ rest) o ls) =
        (target (ofGoal n) p).run (.ready (v.text ++ rest) o ls) ∧
      ∃ s, IsSettled s ∧ (primary (ofGoal n) p).run (.ready (v.text ++ rest) o ls) =
        some (s, .fresh rest (o + byteSize v.text) (found (v.strings o) ls))) :
    Reads (ofGoal (n + 1)) v := by
  intro p skipped rest a hfollows o ls
  obtain ⟨hoperand, s, hs, hprimary⟩ := h p (skipped ++ rest) o ls hfollows.isDelimited
  have htarget := run_target hfollows _ (o + byteSize v.text) _ hs hprimary
  exact ⟨s, hs, run_expression hfollows _ _ _ hs (hoperand.trans htarget)⟩

theorem reads_word (w : Word) (n : Nat) : Reads (ofGoal (n + 1)) (.word w) := by
  refine reads_of_primary _ n fun p rest o ls hrest => ?_
  exact ⟨run_operand_word rest o ls _ p w hrest, .primaryOnly, isSettled_primaryOnly,
    run_primary_word rest o ls _ p w hrest⟩

theorem reads_string (s : Quoted) (n : Nat) : Reads (ofGoal (n + 1)) (.string s) := by
  refine reads_of_primary _ n fun p rest o ls _ => ?_
  exact ⟨run_operand_cons o ls _ p '"' (by decide) _, .primaryOnly, isSettled_primaryOnly,
    run_primary_string rest o ls _ p s⟩

theorem passesGap_operand (parts : Parts) (p : Place) : PassesGap (operand parts p) :=
  passesGap_upcoming.bind _

/-- Behind a minus sign the number is an operand of its own. -/
theorem reads_number (number : Number) (n : Nat) (hn : number.text.length ≤ n) :
    Reads (ofGoal n) (.number number) := by
  have hfirst := number.whole.digits number.whole.first List.mem_cons_self
  have hlead : number.whole.first ∈ '"' :: '[' :: '\x7b' :: digits :=
    List.mem_append_right ['"', '[', '\x7b'] (mem_digits _ hfirst)
  have hoperand : ∀ m p rest o ls,
      (operand (ofGoal m) p).run (.ready (number.magnitude ++ rest) o ls) =
        (target (ofGoal m) p).run (.ready (number.magnitude ++ rest) o ls) :=
    fun m p rest o ls => run_operand_cons o ls _ p _ hlead _
  have hlength : 0 < number.magnitude.length := Nat.succ_pos _
  rw [Number.text] at hn
  cases hnegative : number.isNegative with
  | false =>
    rw [hnegative, if_neg (by decide)] at hn
    obtain ⟨n, rfl⟩ : ∃ m, n = m + 1 := ⟨n - 1, by omega⟩
    have htext : (Value.number number).text = number.magnitude := by
      rw [Value.text, Number.text, hnegative, if_neg (by decide)]
    refine reads_of_primary _ n fun p rest o ls hrest => ?_
    rw [htext]
    exact ⟨hoperand _ p rest o ls, .primaryOnly, isSettled_primaryOnly,
      run_primary_number rest o ls _ p number hrest⟩
  | true =>
    rw [hnegative, if_pos rfl, List.length_cons] at hn
    obtain ⟨n, rfl⟩ : ∃ m, n = m + 2 := ⟨n - 2, by omega⟩
    intro p skipped rest a hfollows o ls
    have htext : (Value.number number).text = '-' :: number.magnitude := by
      rw [Value.text, Number.text, hnegative, if_pos rfl]
    have hprimary := run_primary_number (skipped ++ rest) (o + 1) ls (ofGoal n) p number
      hfollows.isDelimited
    have htarget := run_target hfollows _ _ _ isSettled_primaryOnly hprimary
    have hgap := (passesGap_operand (ofGoal n) p).run_fresh (number.magnitude ++ (skipped ++ rest))
      (o + 1) ls (beginsToken_digit _ _ hfirst)
    have hgoal : ofGoal (n + 1) (.operand p) = operand (ofGoal n) p := rfl
    rw [← hoperand, ← hgap, ← hgoal] at htarget
    have hminus := run_operand_minus o ls (ofGoal (n + 1)) p _ ⟨_, hfirst, rfl⟩ .primaryOnly rfl _
      htarget
    have hoffset : o + byteSize (Value.number number).text = o + 1 + byteSize number.magnitude := by
      have hsign : '-'.utf8Size = 1 := rfl
      rw [htext, byteSize_cons, hsign]
      omega
    refine ⟨.plain, ⟨rfl, rfl, rfl⟩, ?_⟩
    rw [hoffset, htext]
    exact run_expression hfollows _ _ _ ⟨rfl, rfl, rfl⟩ hminus

/-- A list is read if the items in it are. -/
theorem reads_list (v : Value) (n : Nat) (k : Kind) (text : List Char)
    (htext : v.text = k.opening :: (text ++ [k.closing]))
    (h : ∀ rest o ls, ∃ t, IsSettled t ∧
      (items k.closing id (listItem (ofGoal n) k) { target := true }).run
          (.fresh (text ++ k.closing :: rest) (o + k.opening.utf8Size) ls) =
        some (t, .fresh rest (o + k.opening.utf8Size + byteSize text + k.closing.utf8Size)
          (found (v.strings o) ls))) :
    Reads (ofGoal (n + 1)) v := by
  refine reads_of_primary _ n fun p rest o ls _ => ?_
  obtain ⟨t, ht, hitems⟩ := h rest o ls
  have hwhole : v.text ++ rest = k.opening :: (text ++ k.closing :: rest) := by
    rw [htext, List.cons_append, List.append_assoc, List.singleton_append]
  have hoffset : o + byteSize v.text =
      o + k.opening.utf8Size + byteSize text + k.closing.utf8Size := by
    simp only [htext, byteSize_cons, byteSize_append, byteSize_nil]
    omega
  rw [hwhole, hoffset]
  refine ⟨run_operand_cons o ls _ p _ (by cases k <;> decide) _, _, ?_,
    run_primary_list _ p k _ o ls t ht _ hitems⟩
  exact ⟨ht.expression, ht.updatable, ht.enclosed⟩

theorem reads_empty (k : Kind) (gap : Gap) (n : Nat) : Reads (ofGoal (n + 1)) (.empty k gap) := by
  refine reads_list _ n k gap.text rfl fun rest o ls => ?_
  have hbegins : BeginsToken (k.closing :: rest) := by
    cases k <;> exact beginsToken_cons _ _ (by decide)
  exact ⟨_, ⟨rfl, rfl, rfl⟩, run_items_empty k.closing id _ _ gap _ ls rest hbegins⟩

mutual

/-- The depth of a reading need not be more than the length of the value. -/
theorem reads_value (v : Value) (n : Nat) (hn : v.text.length ≤ n) : Reads (ofGoal n) v := by
  -- One step of depth is spent on a value, and its own first sign pays for it.
  match v with
  | .word w =>
    have hlength : 0 < w.text.length := by cases w <;> decide
    rw [Value.text] at hn
    obtain ⟨n, rfl⟩ : ∃ m, n = m + 1 := ⟨n - 1, by omega⟩
    exact reads_word w n
  | .number number => exact reads_number number n hn
  | .string s =>
    rw [Value.text, Quoted.text, List.length_cons] at hn
    obtain ⟨n, rfl⟩ : ∃ m, n = m + 1 := ⟨n - 1, by omega⟩
    exact reads_string s n
  | .empty k gap =>
    rw [Value.text, List.length_cons] at hn
    obtain ⟨n, rfl⟩ : ∃ m, n = m + 1 := ⟨n - 1, by omega⟩
    exact reads_empty k gap n
  | .list k list =>
    rw [Value.text, List.length_cons, List.length_append] at hn
    obtain ⟨n, rfl⟩ : ∃ m, n = m + 1 := ⟨n - 1, by omega⟩
    refine reads_list _ n k list.text rfl fun rest o ls => ?_
    exact run_items list n (by omega) { target := true } ⟨rfl, rfl, rfl⟩ rest _ ls

theorem run_items {k : Kind} (list : Items k) (n : Nat) (hn : list.text.length ≤ n) (s : Shape)
    (hs : IsSettled s) (rest : List Char) (o : Nat) (ls : List Literal) : ∃ t, IsSettled t ∧
      (items k.closing id (listItem (ofGoal n) k) s).run
          (.fresh (list.text ++ k.closing :: rest) o ls) =
        some (t, .fresh rest (o + byteSize list.text + k.closing.utf8Size)
          (found (list.strings o) ls)) := by
  have hheads : ∀ c ∈ heads, c ≠ k.closing ∧ c ≠ ',' :=
    forall_mem_of_all (by cases k <;> decide)
  have hclosing : k.closing ≠ ',' := by cases k <;> decide
  match list with
  | .last before label v behind =>
    simp only [Items.text, List.length_append] at hn
    have hv := reads_value v n (by omega)
    obtain ⟨t, ht, hitem⟩ := run_listItem hv behind k.closing (by cases k <;> decide) rest
      (o + byteSize before.text) ls hs label
    obtain ⟨hbegins, c, hc, hhead⟩ := Label.begins label v (behind.text ++ k.closing :: rest)
    have hitems := run_items_last k.closing id _ s before o ls _ c hhead (hheads c hc).1
      (hheads c hc).2 hbegins rest hclosing hitem
    have htext : (Items.last before label v behind).text ++ k.closing :: rest =
        before.text ++ (label.text ++ (v.text ++ (behind.text ++ k.closing :: rest))) := by
      simp only [Items.text, List.append_assoc]
    have hoffset : o + byteSize (Items.last before label v behind).text = o + byteSize before.text +
        byteSize label.text + byteSize v.text + byteSize behind.text := by
      simp only [Items.text, byteSize_append]
      omega
    refine ⟨t, ht, ?_⟩
    rw [htext, hoffset]
    exact hitems
  | .more before label v behind others =>
    simp only [Items.text, List.length_append, List.length_cons] at hn
    have hv := reads_value v n (by omega)
    obtain ⟨t, ht, hitem⟩ := run_listItem hv behind ',' (by decide)
      (others.text ++ k.closing :: rest) (o + byteSize before.text) ls hs label
    obtain ⟨u, hu, hothers⟩ := run_items others n (by omega) t ht rest _ _
    obtain ⟨hbegins, c, hc, hhead⟩ := Label.begins label v
      (behind.text ++ ',' :: (others.text ++ k.closing :: rest))
    have hless : (others.text ++ k.closing :: rest).length < (label.text ++
        (v.text ++ (behind.text ++ ',' :: (others.text ++ k.closing :: rest)))).length := by
      simp only [List.length_append, List.length_cons]
      omega
    have hitems := run_items_more k.closing id _ s before o ls _ c hhead (hheads c hc).1
      (hheads c hc).2 hbegins _ hitem hless hothers
    have htext : (Items.more before label v behind others).text ++ k.closing :: rest =
        before.text ++ (label.text ++
          (v.text ++ (behind.text ++ ',' :: (others.text ++ k.closing :: rest)))) := by
      simp only [Items.text, List.append_assoc, List.cons_append]
    have hoffset : o + byteSize (Items.more before label v behind others).text =
        o + byteSize before.text + byteSize label.text + byteSize v.text +
          byteSize behind.text + 1 + byteSize others.text := by
      have hcomma : ','.utf8Size = 1 := rfl
      simp only [Items.text, byteSize_append, byteSize_cons, hcomma]
      omega
    refine ⟨u, hu, ?_⟩
    rw [found_append] at hitems
    rw [htext, hoffset, Items.strings, found_append, found_append]
    exact hitems

end

end Glean.Script.Parser
