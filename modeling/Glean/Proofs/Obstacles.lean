import Glean.Proofs.FileChanges
import Glean.Proofs.Hosts
import Glean.Run

set_option autoImplicit false

/-!
# What stops a run

A run is stopped by the first of its obstacles: settings that cannot be used, a range, an exclusion,
an input that is missing, workers that cannot be had. Nothing was read or written then. A run that
ends well has written its report and no other file.
-/
namespace Glean

theorem Report.of_write_eq_ok (t u : FileTree) (path : String) (format : Format)
    (records : List Record) (h : Report.write t path format records = .ok u) :
    t.write path (Report.fileBytes format records) = some u := by
  unfold Report.write at h
  split at h
  · rename_i files hfiles
    rw [hfiles, Except.ok.inj h]
  · contradiction

/-- The first thing that is wrong with what a run is to do. -/
inductive Obstacle (host : Host) (t : FileTree) (c : CommandLine) : Failure → Prop
  | settings {f : Failure} (h : Settings.resolve t c = .error f) : Obstacle host t c f
  | range {settings : Settings} {f : Failure} (hs : Settings.resolve t c = .ok settings)
      (h : host.readRange settings.range = .error f) : Obstacle host t c f
  | exclusion {settings : Settings} {range : Range} {pattern : String} {f : Failure}
      (hs : Settings.resolve t c = .ok settings) (hr : host.readRange settings.range = .ok range)
      (he : settings.exclusion = some pattern) (h : host.readExclusion pattern = .error f) :
      Obstacle host t c f
  | input {settings : Settings} {search : Search} {before behind : List String} {path : String}
      (hs : Settings.resolve t c = .ok settings)
      (hr : Search.ofSettings host settings = .ok search)
      (hp : c.paths = before ++ path :: behind) (hb : ∀ other ∈ before, t.entry? other ≠ none)
      (h : t.entry? path = none) : Obstacle host t c (.missingInput path)
  | workers {settings : Settings} {search : Search} {paths : List String} {f : Failure}
      (hs : Settings.resolve t c = .ok settings)
      (hr : Search.ofSettings host settings = .ok search) (hp : t.collect c.paths = .ok paths)
      (h : host.hire c.jobs = .error f) : Obstacle host t c f

theorem Settings.resolve_eq_error (t : FileTree) (c : CommandLine) (f : Failure)
    (h : Settings.resolve t c = .error f) :
    ∃ path reason, c.config = some path ∧ f = .badSettings path reason := by
  unfold Settings.resolve at h
  cases hconfig : c.config with
  | none =>
    rw [hconfig] at h
    contradiction
  | some path =>
    rw [hconfig] at h
    have hload : FileSettings.load t path = .error f :=
      ((bind_eq_error_iff _ _ _).mp h).resolve_right (by rintro ⟨file, -, h⟩; contradiction)
    unfold FileSettings.load at hload
    split at hload
    · exact ⟨path, _, rfl, (Except.error.inj hload).symm⟩
    · split at hload
      · exact ⟨path, _, rfl, (Except.error.inj hload).symm⟩
      · split at hload
        · contradiction
        · exact ⟨path, _, rfl, (Except.error.inj hload).symm⟩

/-- The input that is missing is the first one that is not there. -/
theorem FileTree.collect_eq_error_iff (t : FileTree) (inputs : List String) (f : Failure) :
    t.collect inputs = .error f ↔
      ∃ before path behind, inputs = before ++ path :: behind ∧
        (∀ other ∈ before, t.entry? other ≠ none) ∧ t.entry? path = none ∧
        f = .missingInput path := by
  induction inputs with
  | nil =>
    refine ⟨nofun, ?_⟩
    rintro ⟨before, path, behind, h, -⟩
    cases before <;> contradiction
  | cons input inputs ih =>
    rw [collect]
    cases hentry : t.entry? input with
    | none =>
      constructor
      · intro h
        exact ⟨[], input, inputs, rfl, nofun, hentry, (Except.error.inj h).symm⟩
      · rintro ⟨before, path, behind, h, hbefore, -, rfl⟩
        cases before with
        | nil =>
          obtain ⟨rfl, -⟩ := List.cons.inj h
          rfl
        | cons other before =>
          obtain ⟨rfl, -⟩ := List.cons.inj h
          exact absurd hentry (hbefore _ List.mem_cons_self)
    | some e =>
      have hmap : (t.collect inputs).map (e.paths input ++ ·) = .error f ↔
          t.collect inputs = .error f := by
        cases t.collect inputs <;> simp [Except.map]
      rw [hmap, ih]
      constructor
      · rintro ⟨before, path, behind, rfl, hbefore, hpath, rfl⟩
        refine ⟨input :: before, path, behind, rfl, ?_, hpath, rfl⟩
        intro other hother
        rcases List.mem_cons.mp hother with rfl | hother
        · rw [hentry]
          exact Option.some_ne_none e
        · exact hbefore other hother
      · rintro ⟨before, path, behind, h, hbefore, hpath, rfl⟩
        cases before with
        | nil =>
          obtain ⟨rfl, -⟩ := List.cons.inj h
          rw [hpath] at hentry
          contradiction
        | cons other before =>
          obtain ⟨rfl, rfl⟩ := List.cons.inj h
          exact ⟨before, path, behind, rfl,
            fun p hp => hbefore p (List.mem_cons_of_mem _ hp), hpath, rfl⟩

namespace Run

/-- A plan fails at the first obstacle, and there is no other reason for it to fail. -/
theorem plan_eq_error_iff (host : Host) (t : FileTree) (c : CommandLine) (f : Failure) :
    plan host t c = .error f ↔ Obstacle host t c f := by
  simp only [plan, bind_eq_error_iff, Search.ofSettings_eq_error_iff,
    FileTree.collect_eq_error_iff]
  constructor
  · rintro (h | ⟨settings, hs, (h | ⟨range, hr, pattern, he, h⟩) | ⟨search, hr,
      ⟨before, path, behind, hp, hb, h, rfl⟩ | ⟨paths, hp, h | ⟨-, -, h⟩⟩⟩⟩)
    · exact .settings h
    · exact .range hs h
    · exact .exclusion hs hr he h
    · exact .input hs hr hp hb h
    · exact .workers hs hr hp h
    · contradiction
  · intro h
    cases h with
    | settings h => exact .inl h
    | range hs h => exact .inr ⟨_, hs, .inl (.inl h)⟩
    | exclusion hs hr he h => exact .inr ⟨_, hs, .inl (.inr ⟨_, hr, _, he, h⟩)⟩
    | input hs hr hp hb h => exact .inr ⟨_, hs, .inr ⟨_, hr, .inl ⟨_, _, _, hp, hb, h, rfl⟩⟩⟩
    | workers hs hr hp h => exact .inr ⟨_, hs, .inr ⟨_, hr, .inr ⟨_, hp, .inl h⟩⟩⟩

end Run

/-- What stops a run is the fault of how it is set up or an input that is missing. -/
theorem Obstacle.exitCode_cases {host : Host} {t : FileTree} {c : CommandLine} {f : Failure}
    (h : Obstacle host t c f) :
    (f.isConfiguration = true ∧ f.exitCode = 2) ∨ ∃ path, f = .missingInput path := by
  cases h with
  | settings h =>
    obtain ⟨path, reason, -, rfl⟩ := Settings.resolve_eq_error t c f h
    exact .inl ⟨rfl, rfl⟩
  | range _ h =>
    obtain ⟨reason, rfl⟩ := host.readRange_eq_error _ f h
    exact .inl ⟨rfl, rfl⟩
  | exclusion _ _ _ h =>
    obtain ⟨reason, rfl⟩ := host.readExclusion_eq_error _ f h
    exact .inl ⟨rfl, rfl⟩
  | input => exact .inr ⟨_, rfl⟩
  | workers _ _ _ h =>
    obtain ⟨n, reason, -, -, -, rfl⟩ := (host.hire_eq_error_iff _ f).mp h
    exact .inl ⟨rfl, rfl⟩

theorem Obstacle.exitCode_ne_zero {host : Host} {t : FileTree} {c : CommandLine} {f : Failure}
    (h : Obstacle host t c f) : f.exitCode ≠ 0 := by
  rcases h.exitCode_cases with ⟨-, h⟩ | ⟨path, rfl⟩
  · rw [h]
    decide
  · change (1 : UInt8) ≠ 0
    decide

namespace Run

/-- A run that was stopped before it began: it read nothing, printed nothing and wrote nothing. -/
def stopped (t : FileTree) (exitCode : UInt8) (failure : Option Failure) : Run :=
  { exitCode, output := "", notes := [], summary := none, failure, report := none, files := t }

/-- What carrying out a plan leaves behind. -/
theorem carryOut_cases (t : FileTree) (c : CommandLine) (level : Level) (p : Plan) :
    (c.stdout = true ∧ (carryOut t c level p).files = t ∧ (carryOut t c level p).failure = none) ∨
    (c.stdout = false ∧ (carryOut t c level p).failure = none ∧
      (carryOut t c level p).report = some p.settings.reportPath ∧
      Report.write t p.settings.reportPath p.settings.format (p.search.visitAll t p.paths).records =
        .ok (carryOut t c level p).files) ∨
    (c.stdout = false ∧ (carryOut t c level p).exitCode = 1 ∧
      (carryOut t c level p).files = t.unwritten p.settings.reportPath ∧
      ∃ reason,
        (carryOut t c level p).failure = some (.notWritten p.settings.reportPath reason)) := by
  unfold carryOut
  dsimp only
  split
  · rename_i hstdout
    exact .inl ⟨hstdout, rfl, rfl⟩
  · rename_i hstdout
    have hfile := Bool.eq_false_iff.mpr hstdout
    split
    · rename_i files hfiles
      exact .inr (.inl ⟨hfile, rfl, rfl, hfiles⟩)
    · rename_i f hf
      refine .inr (.inr ⟨hfile, ?_⟩)
      unfold Report.write at hf
      split at hf
      · contradiction
      · obtain rfl := Except.error.inj hf
        exact ⟨rfl, rfl, _, rfl⟩

/-- Where the report is not printed and all ends well, it was written. -/
theorem written_of_carryOut (t : FileTree) (c : CommandLine) (level : Level) (p : Plan)
    (hfile : c.stdout = false) (hexit : (carryOut t c level p).exitCode = 0) :
    (carryOut t c level p).report = some p.settings.reportPath ∧
      Report.write t p.settings.reportPath p.settings.format (p.search.visitAll t p.paths).records =
        .ok (carryOut t c level p).files := by
  rcases carryOut_cases t c level p with ⟨h, -⟩ | ⟨-, -, hreport, hwrite⟩ | ⟨-, h, -⟩
  · rw [hfile] at h
    contradiction
  · exact ⟨hreport, hwrite⟩
  · rw [h] at hexit
    exact absurd hexit (by decide)

theorem plan_eq_ok_iff (host : Host) (t : FileTree) (c : CommandLine) (p : Plan) :
    plan host t c = .ok p ↔
      Settings.resolve t c = .ok p.settings ∧ Search.ofSettings host p.settings = .ok p.search ∧
        t.collect c.paths = .ok p.paths ∧ host.hire c.jobs = .ok () := by
  simp only [plan, bind_eq_ok_iff]
  constructor
  · rintro ⟨settings, hsettings, search, hsearch, paths, hpaths, _, hworkers, hp⟩
    obtain rfl := Except.ok.inj hp
    exact ⟨hsettings, hsearch, hpaths, hworkers⟩
  · rintro ⟨hsettings, hsearch, hpaths, hworkers⟩
    exact ⟨_, hsettings, _, hsearch, _, hpaths, _, hworkers, rfl⟩

end Run

section

variable (host : Host) (t : FileTree) (args : List String) (env : CommandLine.Environment)
  (c : CommandLine) (hc : CommandLine.read args env = .ok c)

include hc

theorem run_of_obstacle (f : Failure) (h : Obstacle host t c f) :
    run host t args env = Run.stopped t f.exitCode (some f) := by
  have hplan := (Run.plan_eq_error_iff host t c f).mpr h
  simp only [run, hc, hplan]
  rfl

theorem run_of_plan :
    (∃ f, Obstacle host t c f ∧ run host t args env = Run.stopped t f.exitCode (some f)) ∨
      ∃ p, Run.plan host t c = .ok p ∧
        run host t args env = Run.carryOut t c (Run.level c env) p := by
  cases hplan : Run.plan host t c with
  | error f =>
    have h := (Run.plan_eq_error_iff host t c f).mp hplan
    exact .inl ⟨f, h, run_of_obstacle host t args env c hc f h⟩
  | ok p =>
    refine .inr ⟨p, rfl, ?_⟩
    simp only [run, hc, hplan]

theorem exists_plan_of_exitCode (hexit : (run host t args env).exitCode = 0) :
    ∃ p, Run.plan host t c = .ok p ∧
      run host t args env = Run.carryOut t c (Run.level c env) p := by
  rcases run_of_plan host t args env c hc with ⟨f, hf, hrun⟩ | hplan
  · rw [hrun] at hexit
    exact absurd hexit hf.exitCode_ne_zero
  · exact hplan

theorem obstacle_of_failure (f : Failure) (hf : (run host t args env).failure = some f) :
    (Obstacle host t c f ∨ ∃ path reason, f = .notWritten path reason) ∧
      FileTree.SameFiles t (run host t args env).files := by
  rcases run_of_plan host t args env c hc with ⟨g, hg, hrun⟩ | ⟨p, -, hrun⟩
  · rw [hrun] at hf ⊢
    exact ⟨.inl (Option.some.inj hf ▸ hg), .refl t⟩
  · rw [hrun] at hf ⊢
    rcases Run.carryOut_cases t c (Run.level c env) p with
      ⟨-, -, h⟩ | ⟨-, h, -⟩ | ⟨-, -, hfiles, reason, h⟩
    · rw [h] at hf
      contradiction
    · rw [h] at hf
      contradiction
    · rw [h] at hf
      rw [hfiles]
      exact ⟨.inr ⟨_, reason, (Option.some.inj hf).symm⟩, .unwritten t _⟩

theorem files_of_stdout (hstdout : c.stdout = true) : (run host t args env).files = t := by
  rcases run_of_plan host t args env c hc with ⟨g, hg, hrun⟩ | ⟨p, -, hrun⟩
  · rw [hrun]
    rfl
  · rw [hrun]
    rcases Run.carryOut_cases t c (Run.level c env) p with ⟨-, h, -⟩ | ⟨h, -⟩ | ⟨h, -⟩
    · exact h
    · rw [hstdout] at h
      contradiction
    · rw [hstdout] at h
      contradiction

theorem files_of_report (hfile : c.stdout = false) (hexit : (run host t args env).exitCode = 0) :
    ∃ settings place, Settings.resolve t c = .ok settings ∧
      (run host t args env).report = some settings.reportPath ∧
      (run host t args env).files.working = t.working ∧
      (run host t args env).files.locate settings.reportPath = some place ∧
      ((run host t args env).files.root.fileAt? place).isSome = true ∧
      ∀ names, names ≠ place →
        (run host t args env).files.root.fileAt? names = t.root.fileAt? names := by
  obtain ⟨p, hplan, hrun⟩ := exists_plan_of_exitCode host t args env c hc hexit
  rw [hrun] at hexit ⊢
  obtain ⟨hreport, hwrite⟩ := Run.written_of_carryOut t c _ p hfile hexit
  have hwritten := Report.of_write_eq_ok t _ _ _ _ hwrite
  obtain ⟨hworking, place, hplace, hbytes, hothers⟩ := t.exists_place_of_write _ _ _ hwritten
  have hsettings := ((Run.plan_eq_ok_iff host t c p).mp hplan).1
  refine ⟨p.settings, place, hsettings, hreport, hworking, hplace, ?_, hothers⟩
  rw [hbytes]
  rfl

end

/-- A run is stopped by a command line that is rejected, or by the first of its obstacles: then no
file was read, nothing is printed and no file is changed, and nothing else ends a run in this way.
Otherwise no file but the report is changed, wherever its path leads, and none if the report is
printed or cannot be written. -/
theorem run_stopped_or_done (host : Host) (t : FileTree) (args : List String)
    (env : CommandLine.Environment) :
    (∀ usage, CommandLine.read args env = .error usage → usage ≠ .help → usage ≠ .version →
      run host t args env = Run.stopped t 2 none) ∧
    ∀ c, CommandLine.read args env = .ok c →
      (∀ f, Obstacle host t c f → run host t args env = Run.stopped t f.exitCode (some f) ∧
        ((f.isConfiguration = true ∧ f.exitCode = 2) ∨
          ∃ path, f = .missingInput path ∧ f.exitCode = 1)) ∧
      (∀ f, (run host t args env).failure = some f →
        (Obstacle host t c f ∨ ∃ path reason, f = .notWritten path reason) ∧
          FileTree.SameFiles t (run host t args env).files) ∧
      (c.stdout = true → (run host t args env).files = t) ∧
      (c.stdout = false → (run host t args env).exitCode = 0 →
        ∃ settings place, Settings.resolve t c = .ok settings ∧
          (run host t args env).report = some settings.reportPath ∧
          (run host t args env).files.working = t.working ∧
          (run host t args env).files.locate settings.reportPath = some place ∧
          ((run host t args env).files.root.fileAt? place).isSome = true ∧
          ∀ names, names ≠ place →
            (run host t args env).files.root.fileAt? names = t.root.fileAt? names) := by
  refine ⟨?_, ?_⟩
  · intro usage husage hhelp hversion
    simp only [run, husage]
    cases usage with
    | help => contradiction
    | version => contradiction
    | _ => rfl
  · intro c hc
    refine ⟨?_, obstacle_of_failure host t args env c hc, files_of_stdout host t args env c hc,
      files_of_report host t args env c hc⟩
    intro f h
    refine ⟨run_of_obstacle host t args env c hc f h, ?_⟩
    rcases h.exitCode_cases with hf | ⟨path, rfl⟩
    · exact .inl hf
    · exact .inr ⟨path, rfl, rfl⟩

/-- Runs in a folder below the root: an input that is missing behind a range that cannot be read,
behind one that is too large and behind another input, workers that cannot be had, and a report at
the root. -/
theorem run_stopped_or_done_two_faults :
    let t : FileTree :=
      { root := .folder [("a.json", .file [0x22, 0xE4, 0xB8, 0xAD, 0x22]), ("w", .folder [])]
        working := ["w"] }
    let host : Host := ⟨(· ≠ "[a-z]"), fun n => if n < 64 then none else some "too many"⟩
    (∃ f, run host t ["-r", "z-a", "b.json"] [] = Run.stopped t 2 (some f)) ∧
      run host t ["-r", "a-z", "b.json"] [] =
        Run.stopped t 2 (some (.badRange "a-z" Pattern.Fault.tooLarge.message)) ∧
      run host t ["../a.json", "/b.json,c.json"] [] =
        Run.stopped t 1 (some (.missingInput "/b.json")) ∧
      run host t ["/a.json", "-j", "64"] [] =
        Run.stopped t 2 (some (.badSettings "--jobs" "too many")) ∧
      run host t ["-v", "-q", "../a.json"] [] = Run.stopped t 2 none ∧
      (run host t ["--stdout", "../a.json"] []).files = t ∧
      (run host t ["-o", "/out/a", "../a.json"] []).files.root.fileAt? ["a.json"] =
        t.root.fileAt? ["a.json"] := by
  intro t host
  refine ⟨?_, ?_, ?_, ?_, ?_, ?_, ?_⟩
  · obtain ⟨-, done⟩ := run_stopped_or_done host t ["-r", "z-a", "b.json"] []
    have hc : CommandLine.read ["-r", "z-a", "b.json"] [] =
        .ok { inputs := ["b.json"], range := some "z-a" } := rfl
    obtain ⟨f, hf⟩ : ∃ f, host.readRange "z-a" = .error f := ⟨_, rfl⟩
    have h := ((done _ hc).1 f (.range rfl hf)).1
    obtain ⟨reason, rfl⟩ := host.readRange_eq_error _ f hf
    exact ⟨_, h⟩
  · obtain ⟨-, done⟩ := run_stopped_or_done host t ["-r", "a-z", "b.json"] []
    have hc : CommandLine.read ["-r", "a-z", "b.json"] [] =
        .ok { inputs := ["b.json"], range := some "a-z" } := rfl
    exact ((done _ hc).1 _ (.range rfl rfl)).1
  · obtain ⟨-, done⟩ := run_stopped_or_done host t ["../a.json", "/b.json,c.json"] []
    have hc : CommandLine.read ["../a.json", "/b.json,c.json"] [] =
        .ok { inputs := ["../a.json", "/b.json", "c.json"] } := rfl
    have hpaths : ({ inputs := ["../a.json", "/b.json", "c.json"] } : CommandLine).paths =
        ["../a.json"] ++ "/b.json" :: ["c.json"] := by decide +kernel
    refine ((done _ hc).1 _ (.input rfl rfl hpaths ?_ ?_)).1
    · intro other hother
      obtain rfl := List.mem_singleton.mp hother
      exact Option.some_ne_none _
    · rfl
  · obtain ⟨-, done⟩ := run_stopped_or_done host t ["/a.json", "-j", "64"] []
    have hc : CommandLine.read ["/a.json", "-j", "64"] [] =
        .ok { inputs := ["/a.json"], jobs := some 64 } := rfl
    exact ((done _ hc).1 _ (.workers rfl rfl rfl rfl)).1
  · exact (run_stopped_or_done host t ["-v", "-q", "../a.json"] []).1 .conflict rfl
      (by decide) (by decide)
  · obtain ⟨-, done⟩ := run_stopped_or_done host t ["--stdout", "../a.json"] []
    have hc : CommandLine.read ["--stdout", "../a.json"] [] =
        .ok { inputs := ["../a.json"], stdout := true } := rfl
    exact (done _ hc).2.2.1 rfl
  · obtain ⟨-, done⟩ := run_stopped_or_done host t ["-o", "/out/a", "../a.json"] []
    have hc : CommandLine.read ["-o", "/out/a", "../a.json"] [] =
        .ok { inputs := ["../a.json"], output := some "/out/a" } := rfl
    obtain ⟨settings, place, hs, -, -, hplace, -, hothers⟩ :=
      (done _ hc).2.2.2 rfl (by decide +kernel)
    obtain rfl := Except.ok.inj hs
    apply hothers
    have hlocate : (run host t ["-o", "/out/a", "../a.json"] []).files.locate "/out/a.csv" =
        some ["out", "a.csv"] := by decide +kernel
    rw [show (Settings.merge { inputs := ["../a.json"], output := some "/out/a" } {}).reportPath =
      "/out/a.csv" by decide +kernel, hlocate] at hplace
    obtain rfl := Option.some.inj hplace
    decide

end Glean
