import Glean.Proofs.FileChanges
import Glean.Proofs.RecordInvariant

set_option autoImplicit false

/-!
# Tallies in parts

A tally is the sum of what its files contribute, each of them by itself: what one file holds changes
its own records and its own counts and nothing else.
-/
namespace Glean

namespace Tally

/-- The tally of some files and of others behind them. -/
def join (a b : Tally) : Tally :=
  ⟨a.records ++ b.records, a.succeeded + b.succeeded, a.failed + b.failed,
    a.scriptsFailed + b.scriptsFailed⟩

theorem join_assoc (a b c : Tally) : (a.join b).join c = a.join (b.join c) := by
  simp only [join, List.append_assoc, Nat.add_assoc]

theorem join_empty (a : Tally) : a.join {} = a := by
  simp only [join, List.append_nil, Nat.add_zero]

theorem empty_join (a : Tally) : Tally.join {} a = a := by
  simp only [join, List.nil_append, Nat.zero_add]

/-- What an outcome contributes. -/
def ofOutcome (o : Outcome) : Tally := Tally.add {} o

theorem ofOutcome_skipped : ofOutcome .skipped = {} := rfl

theorem add_eq_join (t : Tally) (o : Outcome) : t.add o = t.join (ofOutcome o) := by
  cases o with
  | skipped => exact t.join_empty.symm
  | extracted records n =>
    simp only [add, join, ofOutcome, List.nil_append, Nat.zero_add, Nat.add_zero]
  | failed n => simp only [add, join, ofOutcome, List.append_nil, Nat.zero_add, Nat.add_zero]

theorem foldl_add (outcomes : List Outcome) (t : Tally) :
    outcomes.foldl add t = t.join (ofOutcomes outcomes) := by
  induction outcomes generalizing t with
  | nil => exact t.join_empty.symm
  | cons o outcomes ih =>
    have hrest := ih (Tally.add {} o)
    rw [List.foldl_cons, ih, add_eq_join, join_assoc]
    change t.join ((ofOutcome o).join _) = t.join (outcomes.foldl add (ofOutcome o))
    rw [ofOutcome, hrest]

theorem ofOutcomes_cons (o : Outcome) (outcomes : List Outcome) :
    ofOutcomes (o :: outcomes) = (ofOutcome o).join (ofOutcomes outcomes) :=
  foldl_add outcomes (ofOutcome o)

theorem ofOutcomes_append (first second : List Outcome) :
    ofOutcomes (first ++ second) = (ofOutcomes first).join (ofOutcomes second) := by
  rw [ofOutcomes, List.foldl_append, foldl_add]
  rfl

theorem records_ofOutcome (o : Outcome) : (ofOutcome o).records = o.records := by
  cases o <;> rfl

theorem records_ofOutcomes (outcomes : List Outcome) :
    (ofOutcomes outcomes).records = (outcomes.map (·.records)).flatten := by
  induction outcomes with
  | nil => rfl
  | cons o outcomes ih =>
    rw [ofOutcomes_cons, List.map_cons, List.flatten_cons, ← ih, ← records_ofOutcome]
    rfl

/-- The counts of a tally. -/
def counts (t : Tally) : Nat × Nat × Nat := (t.succeeded, t.failed, t.scriptsFailed)

theorem counts_join_comm (a b : Tally) : (a.join b).counts = (b.join a).counts := by
  simp only [counts, join, Nat.add_comm]

theorem counts_join_congr (a b c : Tally) (h : b.counts = c.counts) :
    (a.join b).counts = (a.join c).counts := by
  simp only [counts, Prod.mk.injEq] at h
  simp only [counts, join, h]

theorem counts_ofOutcomes_perm (first second : List Outcome) (h : first.Perm second) :
    (ofOutcomes first).counts = (ofOutcomes second).counts := by
  induction h with
  | nil => rfl
  | cons o _ ih =>
    rw [ofOutcomes_cons, ofOutcomes_cons]
    exact counts_join_congr _ _ _ ih
  | swap o p outcomes =>
    rw [ofOutcomes_cons, ofOutcomes_cons, ofOutcomes_cons, ofOutcomes_cons, ← join_assoc,
      ← join_assoc, counts_join_comm, counts_join_comm (join (ofOutcome o) _)]
    exact counts_join_congr _ _ _ (counts_join_comm _ _)
  | trans _ _ first second => exact first.trans second

end Tally

namespace Search

variable (s : Search) (t : FileTree)

theorem file_of_mem_visit (path : String) (x : Record) (hx : x ∈ (s.visit t path).records) :
    x.file = path := by
  unfold visit at hx
  split at hx
  · split at hx
    · obtain ⟨-, -, -, hfile⟩ := s.of_mem_outcome path _ _ x hx
      exact hfile
    · contradiction
  · contradiction

theorem visit_congr (u : FileTree) (path : String) (h : u.read? path = t.read? path) :
    s.visit u path = s.visit t path := by
  simp only [visit, h]

theorem visitAll_append (first second : List String) :
    s.visitAll t (first ++ second) = (s.visitAll t first).join (s.visitAll t second) := by
  rw [visitAll, List.map_append, Tally.ofOutcomes_append]
  rfl

theorem visitAll_between (before : List String) (path : String) (behind : List String) :
    s.visitAll t (before ++ path :: behind) =
      ((s.visitAll t before).join (.ofOutcome (s.visit t path))).join (s.visitAll t behind) := by
  have hone : s.visitAll t [path] = .ofOutcome (s.visit t path) := rfl
  rw [← List.singleton_append, ← List.append_assoc, visitAll_append, visitAll_append, hone]

theorem visitAll_filter (paths : List String) :
    s.visitAll t (paths.filter fun path => s.visit t path ≠ .skipped) = s.visitAll t paths := by
  induction paths with
  | nil => rfl
  | cons path paths ih =>
    have hcons : ∀ others, s.visitAll t (path :: others) =
        (Tally.ofOutcome (s.visit t path)).join (s.visitAll t others) := by
      intro others
      exact Tally.ofOutcomes_cons _ _
    rw [hcons, ← ih]
    by_cases h : s.visit t path = .skipped
    · rw [List.filter_cons_of_neg (by simp [h]), h, Tally.ofOutcome_skipped, Tally.empty_join]
    · rw [List.filter_cons_of_pos (by simp [h]), hcons]

/-- What is found in some files, file by file. -/
def blocks (paths : List String) : List (List Record) :=
  paths.map fun path => (s.visit t path).records

theorem records_visitAll (paths : List String) :
    (s.visitAll t paths).records = (s.blocks t paths).flatten := by
  rw [visitAll, Tally.records_ofOutcomes, List.map_map]
  rfl

theorem visitAll_congr (u : FileTree) (paths : List String)
    (h : ∀ path ∈ paths, s.visit u path = s.visit t path) :
    s.visitAll u paths = s.visitAll t paths := by
  rw [visitAll, visitAll, List.map_congr_left h]

/-- The records of a file stand together and name it, and the tally of some files is the sum of what
each of them contributes: files that are skipped can be left out, in another order the same blocks
of records stand in that order, and a file that is written anew changes its own part alone. -/
theorem visitAll_parts :
    (∀ before path behind, s.visitAll t (before ++ path :: behind) =
      ((s.visitAll t before).join (.ofOutcome (s.visit t path))).join (s.visitAll t behind)) ∧
    (∀ path, (Tally.ofOutcome (s.visit t path)).records = (s.visit t path).records ∧
      ∀ x ∈ (s.visit t path).records,
        x.file = path ∧ ∃ n, s.visit t path = .extracted (s.visit t path).records n) ∧
    (∀ paths, s.visitAll t (paths.filter fun path => s.visit t path ≠ .skipped) =
      s.visitAll t paths) ∧
    (∀ paths, (s.visitAll t paths).records = (s.blocks t paths).flatten) ∧
    (∀ first second, first.Perm second →
      (s.visitAll t first).counts = (s.visitAll t second).counts ∧
      (s.blocks t first).Perm (s.blocks t second)) ∧
    ∀ path bytes u, t.writeFile path bytes = some u →
      (∀ other, t.locate other ≠ t.locate path → s.visit u other = s.visit t other) ∧
      ∀ before behind, (∀ other ∈ before ++ behind, t.locate other ≠ t.locate path) →
        s.visitAll u (before ++ path :: behind) =
          ((s.visitAll t before).join (.ofOutcome (s.visit u path))).join
            (s.visitAll t behind) := by
  refine ⟨s.visitAll_between t, ?_, s.visitAll_filter t, s.records_visitAll t, ?_, ?_⟩
  · intro path
    refine ⟨Tally.records_ofOutcome _, ?_⟩
    intro x hx
    refine ⟨s.file_of_mem_visit t path x hx, ?_⟩
    cases hvisit : s.visit t path with
    | skipped =>
      rw [hvisit] at hx
      contradiction
    | extracted records n => exact ⟨n, rfl⟩
    | failed n =>
      rw [hvisit] at hx
      contradiction
  · intro first second h
    exact ⟨Tally.counts_ofOutcomes_perm _ _ (h.map _), h.map _⟩
  · intro path bytes u hwrite
    have hsame : ∀ other, t.locate other ≠ t.locate path → s.visit u other = s.visit t other := by
      intro other hother
      exact s.visit_congr t u other (FileTree.read?_writeFile hwrite other hother)
    refine ⟨hsame, ?_⟩
    intro before behind hothers
    have hbefore := s.visitAll_congr t u before fun other h =>
      hsame other (hothers other (List.mem_append_left _ h))
    have hbehind := s.visitAll_congr t u behind fun other h =>
      hsame other (hothers other (List.mem_append_right _ h))
    rw [visitAll_between, hbefore, hbehind]

/-- A file that cannot be read any more once it was written anew, between two paths to another
one. -/
theorem visitAll_parts_broken_file :
    let s : Search := ⟨⟨Range.default, .set (.range '\u4e00' '\u9fff')⟩, none, ["json"]⟩
    let text : List UInt8 := [0x22, 0xE4, 0xB8, 0xAD, 0x22]
    let t : FileTree := { root := .folder [("a.json", .file text), ("b.json", .file text)] }
    let found (path : String) : Record := ⟨path, 1, .script, "中"⟩
    ∃ u, t.writeFile "b.json" [0x7B] = some u ∧
      s.visitAll u (["a.json", "c.css"] ++ "b.json" :: ["./a.json"]) =
        ⟨[found "a.json", found "./a.json"], 2, 1, 1⟩ ∧
      (s.visitAll t ["a.json", "b.json"]).counts = (s.visitAll t ["b.json", "a.json"]).counts ∧
      (found "a.json").file = "a.json" := by
  intro s text t found
  obtain ⟨-, own, -, -, order, change⟩ := visitAll_parts s t
  have hsome : (t.writeFile "b.json" [0x7B]).isSome = true := by decide +kernel
  obtain ⟨u, hu⟩ := Option.isSome_iff_exists.mp hsome
  refine ⟨u, hu, ?_, (order _ _ (.swap "b.json" "a.json" [])).1, ?_⟩
  · have hbroken : s.visit u "b.json" = .failed 1 := by
      have hread := t.read?_of_writeFile u "b.json" _ hu
      simp only [visit, hread]
      decide +kernel
    have hlist := (change "b.json" [0x7B] u hu).2 ["a.json", "c.css"] ["./a.json"]
      (by decide +kernel)
    rw [hlist, hbroken]
    decide +kernel
  · exact ((own "a.json").2 (found "a.json") (by decide +kernel)).1

end Search

end Glean
