import Glean.Proofs.CsvReport
import Glean.Proofs.JsonReport
import Glean.Proofs.Obstacles
import Glean.Proofs.Schedules
import Glean.Proofs.SettingSources

set_option autoImplicit false

/-!
# Printed and written reports

Whether a report is printed or written is a matter of one switch, and nothing else of a run depends
on it: what is printed is what is written, but for the byte order mark.
-/
namespace Glean

namespace CommandLine

/-- The same command line with the report printed. -/
def printing (c : CommandLine) : CommandLine := { c with stdout := true }

theorem map_printing {α : Type} (x : Except Usage α) (f g : α → CommandLine)
    (h : ∀ a, g a = (f a).printing) : x.map g = (x.map f).map printing := by
  cases x with
  | error usage => rfl
  | ok a => exact congrArg Except.ok (h a)

theorem assign_printing (c : CommandLine) (o : Opt) (text : List Char) :
    c.printing.assign o text = (c.assign o text).map printing := by
  cases o with
  | suffix => rfl
  | exclude => exact map_printing _ _ _ fun _ => rfl
  | output => exact map_printing _ _ _ fun _ => rfl
  | range => exact map_printing _ _ _ fun _ => rfl
  | format => exact map_printing _ _ _ fun _ => rfl
  | config => exact map_printing _ _ _ fun _ => rfl
  | jobs => exact map_printing _ _ _ fun _ => rfl

theorem stdout_of_map {α : Type} (x : Except Usage α) (f : α → CommandLine) (u : CommandLine)
    (hu : x.map f = .ok u) (b : Bool) (h : ∀ a, (f a).stdout = b) : u.stdout = b := by
  cases x with
  | error usage => contradiction
  | ok a => exact Except.ok.inj hu ▸ h a

theorem stdout_of_assign (c u : CommandLine) (o : Opt) (text : List Char)
    (h : c.assign o text = .ok u) : u.stdout = c.stdout := by
  cases o with
  | suffix => exact Except.ok.inj h ▸ rfl
  | exclude => exact stdout_of_map _ _ u h _ fun _ => rfl
  | output => exact stdout_of_map _ _ u h _ fun _ => rfl
  | range => exact stdout_of_map _ _ u h _ fun _ => rfl
  | format => exact stdout_of_map _ _ u h _ fun _ => rfl
  | config => exact stdout_of_map _ _ u h _ fun _ => rfl
  | jobs => exact stdout_of_map _ _ u h _ fun _ => rfl

/-- A switch that leaves the report to be written is the same switch where it is printed. -/
theorem turnOn_printing (c u : CommandLine) (s : Switch) (h : c.turnOn s = .ok u)
    (hu : u.stdout = false) : c.stdout = false ∧ c.printing.turnOn s = .ok u.printing := by
  cases s with
  | stdout =>
    simp only [turnOn] at h
    split at h
    · contradiction
    · rw [← Except.ok.inj h] at hu
      contradiction
  | verbose =>
    cases hv : c.verbose with
    | true => simp [turnOn, hv] at h
    | false =>
      simp only [turnOn, hv, Bool.false_eq_true, if_false, Except.ok.injEq] at h
      subst h
      exact ⟨hu, by simp [turnOn, printing, hv]⟩
  | quiet =>
    cases hq : c.quiet with
    | true => simp [turnOn, hq] at h
    | false =>
      simp only [turnOn, hq, Bool.false_eq_true, if_false, Except.ok.injEq] at h
      subst h
      exact ⟨hu, by simp [turnOn, printing, hq]⟩
  | help => contradiction
  | version => contradiction

namespace Reading

def printing (r : Reading) : Reading := { r with line := r.line.printing }

/-- What becomes of a reading where the report is written becomes of it where it is printed, as long
as nothing asks for that. -/
def Likewise (r : Reading) (x y : Except Usage Reading) : Prop :=
  ∀ u, x = .ok u → u.line.stdout = false → r.line.stdout = false ∧ y = .ok u.printing

theorem likewise_ok (r u : Reading) (h : u.line.stdout = r.line.stdout) :
    Likewise r (.ok u) (.ok u.printing) := by
  intro v hv hoff
  obtain rfl := Except.ok.inj hv
  exact ⟨h ▸ hoff, rfl⟩

theorem likewise_error (r : Reading) (usage : Usage) (y : Except Usage Reading) :
    Likewise r (.error usage) y := by
  intro u hu
  contradiction

theorem Likewise.bind {r : Reading} {x y : Except Usage Reading} (h : Likewise r x y)
    (f : Reading → Except Usage Reading) (hf : ∀ v, Likewise v (f v) (f v.printing)) :
    Likewise r (x >>= f) (y >>= f) := by
  intro u hu hoff
  cases x with
  | error usage => contradiction
  | ok v =>
    obtain ⟨hv, hprinting⟩ := hf v u hu hoff
    obtain ⟨hr, rfl⟩ := h v rfl hv
    exact ⟨hr, hprinting⟩

theorem likewise_assign (r : Reading) (o : Opt) (text : List Char)
    (pending : Option (Opt × Option (List Char))) :
    Likewise r ((r.line.assign o text).map fun c => { r with line := c, pending })
      ((r.printing.line.assign o text).map fun c => { r.printing with line := c, pending }) := by
  have hprinting := r.line.assign_printing o text
  intro u hu hoff
  cases hc : r.line.assign o text with
  | error usage =>
    rw [hc] at hu
    contradiction
  | ok c =>
    rw [hc] at hu hprinting
    obtain rfl := Except.ok.inj hu
    refine ⟨r.line.stdout_of_assign c o text hc ▸ hoff, ?_⟩
    change (r.line.printing.assign o text).map _ = _
    rw [hprinting]
    rfl

theorem pending_printing (r : Reading) : r.printing.pending = r.pending := rfl

theorem onlyInputs_printing (r : Reading) : r.printing.onlyInputs = r.onlyInputs := rfl

theorem likewise_settle (r : Reading) : Likewise r r.settle r.printing.settle := by
  unfold settle
  rw [pending_printing]
  cases r.pending with
  | none => exact likewise_ok r r rfl
  | some pending =>
    obtain ⟨o, attached⟩ := pending
    cases attached with
    | none => exact likewise_error r _ _
    | some text => exact likewise_assign r o text none

theorem likewise_option (r : Reading) (o : Opt) (attached : Option (List Char)) :
    Likewise r (r.option o attached) (r.printing.option o attached) := by
  refine r.likewise_settle.bind _ fun v => ?_
  cases attached with
  | none => exact likewise_ok v { v with pending := some (o, none) } rfl
  | some text => exact likewise_assign v o text v.pending

theorem likewise_switch (r : Reading) (s : Switch) :
    Likewise r (r.switch s) (r.printing.switch s) := by
  refine r.likewise_settle.bind _ fun v => ?_
  intro u hu hoff
  cases hc : v.line.turnOn s with
  | error usage =>
    rw [hc] at hu
    contradiction
  | ok c =>
    rw [hc] at hu
    obtain rfl := Except.ok.inj hu
    obtain ⟨hv, hprinting⟩ := v.line.turnOn_printing c s hc hoff
    refine ⟨hv, ?_⟩
    change (v.line.printing.turnOn s >>= _) = _
    rw [hprinting]
    rfl

theorem likewise_input (r : Reading) (text : List Char) :
    Likewise r (r.input text) (r.printing.input text) :=
  r.likewise_settle.bind _ fun v =>
    likewise_ok v { v with line := { v.line with inputs := v.line.inputs ++ splitCommas text } } rfl

theorem likewise_plain (r : Reading) (text : List Char) :
    Likewise r (r.plain text) (r.printing.plain text) := by
  unfold plain
  rw [pending_printing]
  cases r.pending with
  | none => exact r.likewise_input text
  | some pending =>
    obtain ⟨o, attached⟩ := pending
    cases attached with
    | none => exact likewise_ok r { r with pending := some (o, some text) } rfl
    | some value => exact r.likewise_input text

theorem likewise_long (r : Reading) (text : List Char) :
    Likewise r (r.long text) (r.printing.long text) := by
  unfold long
  dsimp only
  split
  · exact likewise_error r _ _
  · exact r.likewise_option _ _
  · exact r.likewise_switch _
  · exact likewise_error r _ _

theorem likewise_short (text : List Char) (r : Reading) :
    Likewise r (r.short text) (r.printing.short text) := by
  induction text generalizing r with
  | nil => exact likewise_ok r r rfl
  | cons c rest ih =>
    unfold short
    split
    · exact likewise_error r _ _
    · exact (r.likewise_switch _).bind _ ih
    · split
      · exact r.likewise_option _ _
      · exact r.likewise_option _ _
      · exact r.likewise_option _ _

theorem likewise_step (r : Reading) (arg : String) :
    Likewise r (r.step arg) (r.printing.step arg) := by
  unfold step
  dsimp only
  rw [onlyInputs_printing, pending_printing]
  split
  · exact r.likewise_input _
  · split
    · exact r.likewise_plain _
    · rw [if_neg Bool.false_ne_true, if_neg Bool.false_ne_true]
      split
      · exact likewise_ok r { r with onlyInputs := true } rfl
      · exact r.likewise_long _
      · exact r.likewise_plain _
      · exact likewise_short _ r
      · exact r.likewise_plain _

theorem likewise_steps (args : List String) (r : Reading) :
    Likewise r (args.foldlM step r) (args.foldlM step r.printing) := by
  induction args generalizing r with
  | nil => exact likewise_ok r r rfl
  | cons arg args ih => exact (r.likewise_step arg).bind _ ih

end Reading

theorem supply_printing (c : CommandLine) (o : Opt) (old given : Option String) :
    c.printing.supply o old given = (c.supply o old given).map printing := by
  unfold supply
  split
  · exact c.assign_printing o _
  · rfl

/-- The environment fills a command line in the same way where the report is printed. -/
theorem fill_printing (c : CommandLine) (env : Environment) :
    c.printing.fill env = (c.fill env).map printing := by
  rw [fill_eq, fill_eq]
  change (c.printing.supply .output c.output _).bind _ = _
  rw [supply_printing]
  cases c.supply .output c.output (env.lookup outputVariable) with
  | error usage => rfl
  | ok d => exact d.supply_printing .range d.range _

theorem check_eq_ok (c u : CommandLine) (h : c.check = .ok u) :
    u = c ∧ c.printing.check = .ok c.printing := by
  unfold check at h
  split at h
  · contradiction
  · split at h
    · contradiction
    · rename_i hconflict hinputs
      refine ⟨(Except.ok.inj h).symm, ?_⟩
      unfold check
      exact (if_neg hconflict).trans (if_neg hinputs)

/-- A switch in front of the arguments prints the report and changes nothing else. -/
theorem read_printing (args : List String) (env : Environment) (c : CommandLine)
    (h : read args env = .ok c) (hc : c.stdout = false) :
    read ("--stdout" :: args) env = .ok c.printing := by
  simp only [read, bind_eq_ok_iff] at h ⊢
  obtain ⟨r, hsteps, s, hsettle, d, hfill, hcheck⟩ := h
  obtain ⟨rfl, hcheck⟩ := d.check_eq_ok c hcheck
  have hs : s.line.stdout = false := by
    rw [s.line.eq_filled_of_fill c env hfill] at hc
    exact hc
  obtain ⟨hr, hsettled⟩ := r.likewise_settle s hsettle hs
  obtain ⟨-, hread⟩ := Reading.likewise_steps args {} r hsteps hr
  refine ⟨r.printing, ?_, s.printing, hsettled, c.printing, ?_, hcheck⟩
  · have hswitch : Reading.step {} "--stdout" = .ok ({} : Reading).printing := rfl
    rw [List.foldlM_cons, hswitch]
    exact hread
  · change s.line.printing.fill env = _
    rw [fill_printing, hfill]
    rfl

end CommandLine

namespace Report

/-- What stands in front of a report in a file. -/
def lead : Format → List UInt8
  | .csv => [0xEF, 0xBB, 0xBF]
  | .json => []

/-- The records of a report. -/
def read? (format : Format) (text : String) : Option (List Record) :=
  match format with
  | .csv => Csv.decode text.toList
  | .json => Json.decode text.toList

theorem fileBytes_eq (format : Format) (records : List Record) :
    fileBytes format records = lead format ++ (render format records).toUTF8.toList := by
  cases format with
  | csv => exact fileBytes_csv records
  | json => rfl

theorem mark_prefix_iff (format : Format) (records : List Record) :
    lead .csv <+: fileBytes format records ↔ format = .csv := by
  cases format with
  | csv =>
    rw [fileBytes_eq]
    exact ⟨fun _ => rfl, fun _ => List.prefix_append _ _⟩
  | json =>
    refine ⟨?_, nofun⟩
    rintro ⟨rest, hrest⟩
    have hhead := head?_fileBytes_json records
    have hfirst : (lead .csv ++ rest).head? = some 0xEF := rfl
    rw [← hrest, hfirst] at hhead
    exact absurd hhead (by decide)

theorem read?_render (format : Format) (records : List Record) :
    read? format (render format records) = some records := by
  cases format with
  | csv => rw [render, read?, String.toList_ofList, Csv.decode_encode]
  | json => rw [read?, toList_render_json, Json.decode_encode]

end Report

namespace Run

/-- A run that prints its report and one that writes it to a file tell the same of what was found,
and the file holds what is printed, behind its lead and without the last line feed. -/
structure Agree (printed written : Run) (s : Settings) (found : Tally) : Prop where
  ends : printed.exitCode = 0
  told : printed.summary = some found.summary
  toldBefore : written.output = "\n" ++ found.summary ++ "\n\n" ++
    s!"Wrote {found.records.length} records to {s.reportPath}\n"
  place : written.report = some s.reportPath
  content : ∃ body, printed.output = body ++ "\n" ∧
    written.files.read? s.reportPath = some (Report.lead s.format ++ body.toUTF8.toList) ∧
    Report.read? s.format body = some found.records
  marked : ∀ bytes, written.files.read? s.reportPath = some bytes →
    (Report.lead .csv <+: bytes ↔ s.format = .csv)

theorem plan_printing (host : Host) (t : FileTree) (c : CommandLine) :
    plan host t c.printing = plan host t c := rfl

/-- Hosts that let a command line pass plan the same for it. -/
theorem plan_unique (host other : Host) (t : FileTree) (c : CommandLine) (p q : Plan)
    (hp : plan host t c = .ok p) (hq : plan other t c = .ok q) : p = q := by
  obtain ⟨hsettings, hsearch, hpaths, -⟩ := (plan_eq_ok_iff host t c p).mp hp
  obtain ⟨hsettings', hsearch', hpaths', -⟩ := (plan_eq_ok_iff other t c q).mp hq
  obtain ⟨settings, search, paths⟩ := p
  obtain rfl := Except.ok.inj (hsettings.symm.trans hsettings')
  obtain rfl := Search.ofSettings_unique host other _ _ _ hsearch hsearch'
  obtain rfl := Except.ok.inj (hpaths.symm.trans hpaths')
  rfl

theorem agree_carryOut (t : FileTree) (c : CommandLine) (level other : Level) (p : Plan)
    (hfile : c.stdout = false) (hexit : (carryOut t c level p).exitCode = 0) :
    Agree (carryOut t c.printing other p) (carryOut t c level p) p.settings
      (p.search.visitAll t p.paths) := by
  have hprinted : carryOut t c.printing other p =
      { output := Report.render p.settings.format (p.search.visitAll t p.paths).records ++ "\n"
        notes := (carryOut t c.printing other p).notes
        summary := some (p.search.visitAll t p.paths).summary, files := t } := rfl
  obtain ⟨hreport, hwrite⟩ := written_of_carryOut t c level p hfile hexit
  have houtput : (carryOut t c level p).output =
      let found := p.search.visitAll t p.paths
      "\n" ++ found.summary ++ "\n\n" ++
        s!"Wrote {found.records.length} records to {p.settings.reportPath}\n" := by
    unfold Search.visitAll at hwrite ⊢
    unfold carryOut
    dsimp only
    rw [hfile, if_neg Bool.false_ne_true, hwrite]
  have hread := t.read?_of_write _ _ _ (Report.of_write_eq_ok t _ _ _ _ hwrite)
  rw [hprinted]
  refine ⟨rfl, rfl, houtput, hreport, ⟨_, rfl, ?_, Report.read?_render _ _⟩, ?_⟩
  · rw [← Report.fileBytes_eq]
    exact hread
  · intro bytes hbytes
    obtain rfl := Option.some.inj (hread.symm.trans hbytes)
    exact Report.mark_prefix_iff _ _

end Run

/-- Where the report is written, a switch in front of the arguments prints it, and any command line
that says the same but for that ends well too on the same host, and on every host on which it ends
well prints what is written. Both tell what is found in the files of the inputs, whatever the number
of workers. -/
theorem printed_as_written (host : Host) (t : FileTree) (args : List String)
    (env : CommandLine.Environment) (c : CommandLine) (hc : CommandLine.read args env = .ok c)
    (hfile : c.stdout = false) (hexit : (run host t args env).exitCode = 0) :
    CommandLine.read ("--stdout" :: args) env = .ok c.printing ∧
    ∃ settings search paths found,
      Settings.resolve t c = .ok settings ∧ Search.ofSettings host settings = .ok search ∧
      t.collect c.paths = .ok paths ∧ found = search.visitAll t paths ∧
      (∀ tally, search.CanFind t paths c.jobs tally ↔ tally = found) ∧
      ∀ others otherEnv, CommandLine.read others otherEnv = .ok c.printing →
        (run host t others otherEnv).exitCode = 0 ∧
        ∀ other, (run other t others otherEnv).exitCode = 0 →
          Run.Agree (run other t others otherEnv) (run host t args env) settings found := by
  refine ⟨CommandLine.read_printing args env c hc hfile, ?_⟩
  obtain ⟨p, hplan, hrun⟩ := exists_plan_of_exitCode host t args env c hc hexit
  obtain ⟨hsettings, hsearch, hpaths, -⟩ := (Run.plan_eq_ok_iff host t c p).mp hplan
  refine ⟨p.settings, p.search, p.paths, _, hsettings, hsearch, hpaths, rfl,
    p.search.canFind_iff t p.paths c.jobs, ?_⟩
  rw [hrun] at hexit ⊢
  intro others otherEnv hothers
  have hagree := Run.agree_carryOut t c (Run.level c env) (Run.level c.printing otherEnv) p hfile
    hexit
  refine ⟨?_, ?_⟩
  · have hsame : run host t others otherEnv =
        Run.carryOut t c.printing (Run.level c.printing otherEnv) p := by
      simp only [run, hothers, Run.plan_printing, hplan]
    rw [hsame]
    exact hagree.ends
  · intro other hends
    obtain ⟨q, hq, hrun⟩ :=
      exists_plan_of_exitCode other t others otherEnv c.printing hothers hends
    rw [Run.plan_printing] at hq
    obtain rfl := Run.plan_unique host other t c p q hplan hq
    rw [hrun]
    exact hagree

/-- A script and data above the working folder, a report in a new folder below the root whose name
lacks its extension, and the switch at another place among the arguments. -/
theorem printed_as_written_new_folder :
    let t : FileTree :=
      { root := .folder [("a.json", .file [0x22, 0xE4, 0xB8, 0xAD, 0x22]),
          ("w", .folder [("b.js", .file [0x28])])]
        working := ["w"] }
    let found : Tally := ⟨[⟨"../a.json", 1, .script, "中"⟩], 1, 1, 1⟩
    ∃ settings, settings.reportPath = "/out/a.csv" ∧
      Run.Agree (run .ample t ["../a.json", "/w/b.js", "--stdout", "-o", "/out/a", "-j4"] [])
        (run .ample t ["../a.json", "/w/b.js", "-o", "/out/a", "-j4"] []) settings found := by
  intro t found
  have hc : CommandLine.read ["../a.json", "/w/b.js", "-o", "/out/a", "-j4"] [] =
      .ok { inputs := ["../a.json", "/w/b.js"], output := some "/out/a", jobs := some 4 } := rfl
  obtain ⟨-, settings, search, paths, tally, hs, hsearch, hpaths, htally, -, hagree⟩ :=
    printed_as_written .ample t _ [] _ hc rfl (by decide +kernel)
  have hpath : settings.reportPath = "/out/a.csv" := by
    obtain rfl := Except.ok.inj hs
    decide +kernel
  have hfound : tally = found := by
    obtain rfl := Except.ok.inj hs
    obtain rfl := Except.ok.inj hsearch
    obtain rfl := Except.ok.inj hpaths
    rw [htally]
    decide +kernel
  obtain ⟨hends, hothers⟩ :=
    hagree ["../a.json", "/w/b.js", "--stdout", "-o", "/out/a", "-j4"] [] rfl
  exact ⟨settings, hpath, hfound ▸ hothers .ample hends⟩

end Glean
