import Glean.Proofs.ReadBack
import Glean.Proofs.Utf8
import Glean.Settings
import Mathlib.Data.List.TakeWhile

set_option autoImplicit false

/-!
# Where settings come from

A setting is what the first of its sources gives: the arguments, the environment, the settings file,
and the default where none of them gives any. What a lower source says of it and what any source
says of the other settings does not matter.
-/
namespace Glean

namespace CommandLine

/-- Gives an option what the environment has for it, if it is open. -/
def supply (c : CommandLine) (o : Opt) (old given : Option String) : Except Usage CommandLine :=
  match old, given with
  | none, some text => c.assign o text.toList
  | _, _ => .ok c

theorem fill_eq (c : CommandLine) (env : Environment) :
    c.fill env = (c.supply .output c.output (env.lookup outputVariable)).bind fun d =>
      d.supply .range d.range (env.lookup rangeVariable) := by
  unfold fill supply
  cases c.output with
  | some text => rfl
  | none =>
    cases env.lookup outputVariable with
    | none => rfl
    | some text => rfl

theorem supply_none (c : CommandLine) (o : Opt) (old : Option String) :
    c.supply o old none = .ok c := by
  cases old <;> rfl

/-- The command line with what the environment gives where the arguments give nothing. -/
def filled (c : CommandLine) (env : Environment) : CommandLine :=
  { c with
    output := c.output.or (env.lookup outputVariable)
    range := c.range.or (env.lookup rangeVariable) }

/-- An option that is open is given its value; any other command line stays as it is. -/
theorem of_supply {c d : CommandLine} {o : Opt} {old given : Option String}
    (h : c.supply o old given = .ok d) :
    (∃ text, old = none ∧ given = some text ∧ c.assign o text.toList = .ok d) ∨
      (old.or given = old ∧ d = c) := by
  cases old with
  | some text => exact .inr ⟨rfl, (Except.ok.inj h).symm⟩
  | none =>
    cases given with
    | none => exact .inr ⟨rfl, (Except.ok.inj h).symm⟩
    | some text => exact .inl ⟨text, rfl, rfl, h⟩

theorem of_supply_output (c d : CommandLine) (given : Option String)
    (h : c.supply .output c.output given = .ok d) : d = { c with output := c.output.or given } := by
  rcases of_supply h with ⟨text, hold, rfl, hassign⟩ | ⟨hor, rfl⟩
  · rw [assign, hold, path?] at hassign
    split at hassign
    · contradiction
    · obtain rfl := Except.ok.inj hassign
      rw [hold, Option.none_or, String.ofList_toList]
  · rw [hor]

theorem of_supply_range (c d : CommandLine) (given : Option String)
    (h : c.supply .range c.range given = .ok d) : d = { c with range := c.range.or given } := by
  rcases of_supply h with ⟨text, hold, rfl, hassign⟩ | ⟨hor, rfl⟩
  · rw [assign, hold] at hassign
    obtain rfl := Except.ok.inj hassign
    rw [hold, Option.none_or, String.ofList_toList]
  · rw [hor]

theorem eq_filled_of_fill (c d : CommandLine) (env : Environment) (h : c.fill env = .ok d) :
    d = c.filled env := by
  rw [fill_eq] at h
  obtain ⟨u, hu, hd⟩ := (bind_eq_ok_iff _ _ _).mp h
  obtain rfl := c.of_supply_output u _ hu
  exact of_supply_range _ d _ hd

theorem fill_nil (c : CommandLine) : c.fill [] = .ok c := by
  rw [fill_eq, List.lookup_nil, List.lookup_nil, supply_none]
  exact supply_none c .range c.range

/-- The environment does not decide whether a command line is complete. -/
theorem check_filled (c d : CommandLine) (env : Environment) (h : (c.filled env).check = .ok d) :
    d = c.filled env ∧ c.check = .ok c := by
  unfold check at h ⊢
  change (if c.verbose && c.quiet then _ else if c.inputs.isEmpty then _ else _) = _ at h
  split at h
  · contradiction
  · rename_i hconflict
    rw [if_neg hconflict]
    split at h
    · contradiction
    · rename_i hinputs
      rw [if_neg hinputs]
      exact ⟨(Except.ok.inj h).symm, rfl⟩

/-- A command line is what the arguments say by themselves and what the environment adds. -/
theorem exists_flags (args : List String) (env : Environment) (c : CommandLine)
    (h : read args env = .ok c) : ∃ flags, read args [] = .ok flags ∧ c = flags.filled env := by
  simp only [read, bind_eq_ok_iff] at h ⊢
  obtain ⟨r, hsteps, s, hsettle, d, hfill, hcheck⟩ := h
  obtain rfl := s.line.eq_filled_of_fill d env hfill
  obtain ⟨rfl, hcomplete⟩ := s.line.check_filled c env hcheck
  exact ⟨s.line, ⟨r, hsteps, s, hsettle, s.line, s.line.fill_nil, hcomplete⟩, rfl⟩

end CommandLine

/-- The settings file of a run, which is empty where none is named. -/
def FileSettings.IsFor (f : FileSettings) (t : FileTree) (config : Option String) : Prop :=
  match config with
  | none => f = {}
  | some path => FileSettings.load t path = .ok f

theorem Settings.resolve_of_isFor (t : FileTree) (c : CommandLine) (f : FileSettings)
    (h : f.IsFor t c.config) : Settings.resolve t c = .ok (Settings.merge c f) := by
  unfold Settings.resolve
  cases hconfig : c.config with
  | none =>
    rw [hconfig] at h
    obtain rfl : f = {} := h
    rfl
  | some path =>
    rw [hconfig] at h
    have hload : FileSettings.load t path = .ok f := h
    dsimp only
    rw [hload]
    rfl

/-- What settings are taken from: what the arguments say by themselves, the environment, and the
settings file. -/
structure Sources where
  flags : CommandLine
  environment : CommandLine.Environment
  file : FileSettings

/-- What can be set. -/
inductive Setting
  | suffixes
  | exclusion
  | range
  | output
  | format

namespace Setting

/-- What a source gives for a setting. -/
abbrev Given : Setting → Type
  | suffixes => List String
  | exclusion => String
  | range => String
  | output => String
  | format => Format

/-- What a setting is in the end. -/
abbrev Settled : Setting → Type
  | suffixes => List String
  | exclusion => Option String
  | range => String
  | output => String
  | format => Format

def ofFlags (c : CommandLine) : (x : Setting) → Option x.Given
  | suffixes => c.suffixes
  | exclusion => c.exclusion
  | range => c.range
  | output => c.output
  | format => c.format

def ofEnvironment (env : CommandLine.Environment) : (x : Setting) → Option x.Given
  | range => env.lookup CommandLine.rangeVariable
  | output => env.lookup CommandLine.outputVariable
  | suffixes => none
  | exclusion => none
  | format => none

def ofFile (f : FileSettings) : (x : Setting) → Option x.Given
  | suffixes => f.suffixes
  | exclusion => f.exclusion
  | range => f.range
  | output => f.output
  | format => f.format

def of (s : Settings) : (x : Setting) → x.Settled
  | suffixes => s.suffixes
  | exclusion => s.exclusion
  | range => s.range
  | output => s.output
  | format => s.format

/-- What the sources give for a setting, the highest of them first. -/
def given (x : Setting) (S : Sources) : List (Option x.Given) :=
  [x.ofFlags S.flags, x.ofEnvironment S.environment, x.ofFile S.file]

/-- The part of a list entry that can be a suffix: anything but white space around it and dots. -/
def isUsable (entry : String) : Bool := (Text.trim entry.toList).any (· ≠ '.')

/-- What becomes of a setting by the value that was found first. -/
def settle : (x : Setting) → Option x.Given → x.Settled
  | suffixes, some list =>
    if list.any isUsable then Settings.normalizeSuffixes list else Settings.defaultSuffixes
  | suffixes, none => Settings.defaultSuffixes
  | exclusion, some pattern => if pattern = "" then none else some pattern
  | exclusion, none => none
  | range, value => value.getD Range.default
  | output, value => value.getD "output.csv"
  | format, value => value.getD .csv

theorem trimSuffix_eq_empty_iff (entry : String) :
    Settings.trimSuffix entry = "" ↔ isUsable entry = false := by
  rw [Settings.trimSuffix, isUsable, ← String.toList_eq_nil_iff, String.toList_ofList,
    List.dropWhile_eq_nil_iff, List.any_eq_false]
  simp

theorem normalizeSuffixes_eq_nil_iff (list : List String) :
    Settings.normalizeSuffixes list = [] ↔ list.any isUsable = false := by
  rw [Settings.normalizeSuffixes, List.filter_eq_nil_iff, List.any_eq_false]
  simp [trimSuffix_eq_empty_iff]

theorem suffixes_getD (value : Option (List String)) :
    (Settings.suffixes? value).getD Settings.defaultSuffixes = settle suffixes value := by
  cases value with
  | none => rfl
  | some list =>
    have hnil := normalizeSuffixes_eq_nil_iff list
    rw [Settings.suffixes?, Option.map_some, Option.filter_some]
    by_cases h : list.any isUsable = true
    · have hne : Settings.normalizeSuffixes list ≠ [] := by
        rw [Ne, hnil, h]
        exact Bool.true_eq_false.mp
      rw [if_pos (decide_eq_true hne), Option.getD_some, settle, if_pos h]
    · rw [Bool.not_eq_true] at h
      rw [if_neg (by simp [hnil.mpr h]), Option.getD_none, settle, if_neg (by simp [h])]

theorem settle_suffixes_ne_nil (value : Option (List String)) : settle suffixes value ≠ [] := by
  cases value with
  | none => exact List.cons_ne_nil _ _
  | some list =>
    rw [settle]
    split
    · rename_i h
      rw [Ne, normalizeSuffixes_eq_nil_iff, h]
      exact Bool.true_eq_false.mp
    · exact List.cons_ne_nil _ _

theorem empty_not_mem_settle (value : Option (List String)) : "" ∉ settle suffixes value := by
  cases value with
  | none => decide
  | some list =>
    rw [settle]
    split
    · intro hmem
      simp [Settings.normalizeSuffixes] at hmem
    · decide

theorem settle_exclusion_ne_empty (value : Option String) : settle exclusion value ≠ some "" := by
  cases value with
  | none => exact (Option.some_ne_none _).symm
  | some pattern =>
    rw [settle]
    split
    · exact (Option.some_ne_none _).symm
    · rename_i h
      exact fun hpattern => h (Option.some.inj hpattern)

end Setting

/-- The value of the first source that gives one. -/
def first {α : Type} (values : List (Option α)) : Option α := values.findSome? id

/-- Two lists of values with the same up to the first that is given; what stands behind that one
may differ. -/
inductive SameUpToFirst {α : Type} : List (Option α) → List (Option α) → Prop
  | nil : SameUpToFirst [] []
  | given (value : α) (lower other : List (Option α)) :
      SameUpToFirst (some value :: lower) (some value :: other)
  | missing (lower other : List (Option α)) (h : SameUpToFirst lower other) :
      SameUpToFirst (none :: lower) (none :: other)

theorem SameUpToFirst.first_eq {α : Type} {values others : List (Option α)}
    (h : SameUpToFirst values others) : first values = first others := by
  induction h with
  | nil => rfl
  | given value lower other => rfl
  | missing lower other h ih => exact ih

/-- The settings of a run and what they are taken from: the arguments are accepted, and the settings
file is valid. -/
structure Resolves (t : FileTree) (args : List String) (S : Sources) (s : Settings) : Prop where
  flags : CommandLine.read args [] = .ok S.flags
  line : ∃ c, CommandLine.read args S.environment = .ok c ∧ S.file.IsFor t c.config ∧
    Settings.resolve t c = .ok s

theorem first_or {α : Type} (high middle low : Option α) :
    first [high, middle, low] = (high.or middle).or low := by
  cases high <;> cases middle <;> cases low <;> rfl

theorem Setting.of_merge (x : Setting) (S : Sources) :
    x.of (Settings.merge (S.flags.filled S.environment) S.file) = x.settle (first (x.given S)) := by
  rw [Setting.given, first_or]
  cases x with
  | suffixes =>
    have hvalue := suffixes_getD (S.flags.suffixes.or S.file.suffixes)
    rw [ofEnvironment, Option.or_none]
    exact hvalue
  | exclusion =>
    rw [ofEnvironment, Option.or_none]
    change (S.flags.exclusion.or S.file.exclusion).filter (· ≠ "") =
      settle exclusion (S.flags.exclusion.or S.file.exclusion)
    cases S.flags.exclusion.or S.file.exclusion with
    | none => rfl
    | some pattern =>
      rw [Option.filter_some, settle]
      by_cases h : pattern = "" <;> simp [h]
  | range => rfl
  | output => rfl
  | format =>
    rw [ofEnvironment, Option.or_none]
    rfl

theorem Resolves.of_eq {t : FileTree} {args : List String} {S : Sources} {s : Settings}
    (h : Resolves t args S s) (x : Setting) : x.of s = x.settle (first (x.given S)) := by
  obtain ⟨c, hread, hfile, hresolve⟩ := h.line
  obtain ⟨flags, hflags, rfl⟩ := CommandLine.exists_flags args S.environment c hread
  obtain rfl := Except.ok.inj (h.flags.symm.trans hflags)
  obtain rfl := Except.ok.inj (hresolve.symm.trans (Settings.resolve_of_isFor t _ _ hfile))
  exact x.of_merge S

/-- Where the arguments are accepted and the settings file is valid, each setting is what the first
source gives for it, and the same in any other run with the same up to that source. The suffixes are
never used up, a list without any that can be meant counts as none at all, and a pattern that is
empty switches off the exclusion of a lower source. -/
theorem first_source_decides (t : FileTree) (args : List String) (env : CommandLine.Environment)
    (c : CommandLine) (f : FileSettings) (hread : CommandLine.read args env = .ok c)
    (hfile : f.IsFor t c.config) :
    ∃ flags s, Resolves t args ⟨flags, env, f⟩ s ∧ Settings.resolve t c = .ok s ∧
      (∀ x : Setting, x.of s = x.settle (first (x.given ⟨flags, env, f⟩))) ∧
      (∀ u others S o, Resolves u others S o →
        ∀ x : Setting, SameUpToFirst (x.given ⟨flags, env, f⟩) (x.given S) → x.of o = x.of s) ∧
      (s.suffixes ≠ [] ∧ "" ∉ s.suffixes ∧ s.exclusion ≠ some "") ∧
      (∀ list, first (Setting.suffixes.given ⟨flags, env, f⟩) = some list →
        list.any Setting.isUsable = false → s.suffixes = Settings.defaultSuffixes) ∧
      (first (Setting.exclusion.given ⟨flags, env, f⟩) = some "" → s.exclusion = none) := by
  obtain ⟨flags, hflags, hc⟩ := CommandLine.exists_flags args env c hread
  have hresolve := Settings.resolve_of_isFor t c f hfile
  have hrun : Resolves t args ⟨flags, env, f⟩ (Settings.merge c f) :=
    ⟨hflags, c, hread, hfile, hresolve⟩
  have hsuffixes : (Settings.merge c f).suffixes = _ := hrun.of_eq .suffixes
  have hexclusion : (Settings.merge c f).exclusion = _ := hrun.of_eq .exclusion
  refine ⟨flags, _, hrun, hresolve, hrun.of_eq, ?_, ?_, ?_, ?_⟩
  · intro u others S o hother x hsame
    rw [hother.of_eq x, hrun.of_eq x, hsame.first_eq]
  · rw [hsuffixes, hexclusion]
    exact ⟨Setting.settle_suffixes_ne_nil _, Setting.empty_not_mem_settle _,
      Setting.settle_exclusion_ne_empty _⟩
  · intro list hfirst husable
    rw [hsuffixes, hfirst, Setting.settle, husable]
    rfl
  · intro hfirst
    rw [hexclusion, hfirst]
    rfl

theorem FileSettings.isFor_of_read (t : FileTree) (path : String) (text : List Char)
    (f : FileSettings)
    (hfile : t.read? path = some (String.ofList text).toUTF8.toList)
    (hread : FileSettings.read text = some f) : f.IsFor t (some path) := by
  change FileSettings.load t path = .ok f
  rw [FileSettings.load, hfile]
  dsimp only
  rw [Text.decodeExact_toUTF8]
  dsimp only
  rw [hread]

/-- A file that gives every setting, below a list of suffixes that means nothing, an empty exclusion
and a range from the environment. -/
theorem first_source_decides_all_sources :
    let text := "suffixes = ['ts']\nexclude = 'x'\nrange = 'b'\noutput = 'o'".toList
    let t : FileTree := { root := .folder [("c.toml", .file (String.ofList text).toUTF8.toList)] }
    let args := ["in", "-s", " . ,", "-e", "", "-c", "c.toml"]
    let env := [(CommandLine.rangeVariable, "a-z")]
    ∃ c, CommandLine.read args env = .ok c ∧
      Settings.resolve t c = .ok ⟨Settings.defaultSuffixes, none, "a-z", "o", .csv⟩ := by
  intro text t args env
  have hread : CommandLine.read args env = .ok
      { inputs := ["in"], exclusion := some "", suffixes := some [" . ", ""], range := some "a-z",
        config := some "c.toml" } := rfl
  let f : FileSettings := ⟨some ["ts"], some "x", some "b", some "o", none⟩
  have hfile : f.IsFor t (some "c.toml") := by
    apply FileSettings.isFor_of_read t "c.toml" text f
    · rfl
    · decide +kernel
  obtain ⟨flags, s, hrun, hresolve, hfirst, -⟩ := first_source_decides t args env _ f hread hfile
  have hflags : CommandLine.read args [] = .ok
      { inputs := ["in"], exclusion := some "", suffixes := some [" . ", ""],
        config := some "c.toml" } := rfl
  obtain rfl := Except.ok.inj (hflags.symm.trans hrun.flags)
  refine ⟨_, hread, hresolve.trans (congrArg Except.ok ?_)⟩
  have hs : s = ⟨Setting.suffixes.of s, Setting.exclusion.of s, Setting.range.of s,
      Setting.output.of s, Setting.format.of s⟩ := rfl
  rw [hs]
  simp only [hfirst]
  decide +kernel

end Glean
