import SqlProbe.Invocation
import SqlProbe.Proofs.Plan
import SqlProbe.Proofs.Settings.Mapping
import SqlProbe.Proofs.Switches.Written

/-!
# Switches and a file

Settings have two sources, a command line and the file that it names (`Sources`). A field
is what the file says of it, else what the line says of it, and else what it is without
any source (`Sources.effective`, `Sources.get_settings`).

Where a field comes from does not matter after that. The plan is made of the fields,
whatever the file is called (`Settings.plan_congr`), and so is the check
(`Settings.session_congr`). Two pairs of sources with the same effective values therefore
make the same run (`Sources.interchangeable`).
-/

namespace SqlProbe

/-! ### The fields of arguments -/

/-- What a field is without any source. -/
def FileKey.fallback : (k : FileKey) → Option k.Content
  | .port => some (3306 : UInt16)
  | .verbose => some false
  | .logFormat => some LogFormat.text
  | .host | .database | .user | .password | .query | .expected | .pattern | .warn | .crit
  | .logLevel => none

/-- A field of arguments. There is no switch for the level of log records, and none that
says that the verdict is not explained. -/
def Arguments.get (a : Arguments) : (k : FileKey) → Option k.Content
  | .host => a.host
  | .port => a.port
  | .database => a.database
  | .user => a.user
  | .password => a.pass
  | .query => a.query
  | .expected => a.result
  | .pattern => a.regex
  | .warn => a.warn
  | .crit => a.crit
  | .verbose => if a.verbose then some true else .none
  | .logLevel => .none
  | .logFormat => a.logFormat

namespace Settings

variable {s s' : Settings}

theorem get_ofArguments (a : Arguments) (k : FileKey) :
    (ofArguments a).get k = (a.get k).or k.fallback := by
  cases k
  case port | logFormat => exact Option.or_some.symm
  case verbose =>
    change some a.verbose = (if a.verbose then some true else none).or (some false)
    cases a.verbose <;> rfl
  all_goals exact Option.or_none.symm

/-! ### What a run is made of -/

/-- The name of the file is no part of the plan. -/
theorem plan_withFile (s : Settings) (file : Option RawText) :
    { s with file := file }.plan = s.plan := by
  simp only [plan, validate]
  split
  · -- The rules look at the port and the pattern only.
    change Except.map _ (if s.violations.isEmpty then _ else _) = _
    split <;> rfl
  · rfl

/-- **Settings with the same fields** have the same plan. -/
theorem plan_congr (h : ∀ k, s.get k = s'.get k) : s.plan = s'.plan := by
  -- With the same name of the file, the settings are the same.
  have hget : ∀ k, { s with file := s'.file }.get k = s'.get k := by
    intro k
    rw [← h]
    cases k <;> rfl
  calc s.plan
      = { s with file := s'.file }.plan := (plan_withFile s s'.file).symm
    _ = s'.plan := by rw [ext_get hget rfl]

/-- **Settings with the same fields** make the same check. -/
theorem session_congr (h : ∀ k, s.get k = s'.get k) : s.session = s'.session := by
  have hverbose : s.verbose = s'.verbose := Option.some.inj (h .verbose)
  rw [session, session, plan_congr h, hverbose]

end Settings

/-! ### Two sources -/

/-- **Where settings come from**: a command line that writes what it sets, and a file of
what the line does not set or sets otherwise. -/
structure Sources where
  /-- The command line. -/
  args : List RawText
  /-- What is found under the name of a file. -/
  read : FileReader
  /-- What the line sets. -/
  switches : Arguments
  /-- The name of the file. -/
  path : RawText
  /-- The text of the file. -/
  text : String
  /-- What the file sets. -/
  layer : Layer
  written : switches.WrittenAs args
  named : switches.file = some path
  found : read.text path = .ok text
  held : layer.IsFile text

namespace Sources

variable (x y : Sources)

/-- What a field comes to. -/
def effective (k : FileKey) : Option k.Content :=
  ((x.layer.get k).or (x.switches.get k)).or k.fallback

/-- The settings of both sources. -/
def settings : Settings := (Settings.ofArguments x.switches).overlay x.layer

theorem resolve : Settings.resolve x.switches x.read = .ok x.settings := by
  simp only [Settings.resolve, Settings.overlayFile, x.named, x.found, x.held.parse]
  rfl

/-- **The file, else the line, else the default.** -/
theorem get_settings (k : FileKey) : x.settings.get k = x.effective k := by
  rw [settings, Settings.get_overlay, Settings.get_ofArguments, ← Option.or_assoc]
  rfl

/-- The file is the one that is named. -/
theorem file_settings : x.settings.file = some x.path := x.named

/-- The run is the check of the settings. -/
theorem ofArguments_eq :
    Invocation.ofArguments x.args x.read = .check x.settings.session := by
  simp only [Invocation.ofArguments, x.written.parse, x.written.help, x.resolve]
  rfl

variable {x y} in
/-- **The same effective values** make the same run. -/
theorem session_settings_congr (h : ∀ k, x.effective k = y.effective k) :
    x.settings.plan = y.settings.plan ∧ x.settings.session = y.settings.session := by
  have hget : ∀ k, x.settings.get k = y.settings.get k := by
    intro k
    rw [get_settings, get_settings, h]
  exact ⟨Settings.plan_congr hget, Settings.session_congr hget⟩

/-- **There are such sources** for all values of the switches and of the fields, with the
switches in any order. -/
theorem exists_of {a : Arguments} {f : Layer} {path : RawText} {args : List RawText}
    (hhelp : a.help = false) (hfile : a.file = some path) (hpath : path.isEmpty = false)
    (hargs : args.Perm a.line) :
    ∃ x : Sources, x.args = args ∧ x.switches = a ∧ x.text = f.file ∧ x.layer = f := by
  have hnamed : ∀ path', a.file = some path' → path'.isEmpty = false := by
    intro path' hpath'
    rwa [← Option.some.inj (hfile.symm.trans hpath')]
  have hwritten : a.WrittenAs args := (Arguments.writtenAs_line hhelp hnamed).perm hargs.symm
  have hfound : FileReader.text (fun _ => .ok (.ofString f.file)) path = .ok f.file := by
    rw [FileReader.text]
    simp only [RawText.toString?_ofString]
  exact ⟨⟨args, _, a, path, f.file, f, hwritten, hfile, hfound, f.isFile_file⟩, rfl, rfl, rfl, rfl⟩

/-- **Switches and a file are interchangeable.** Whatever is set by switches, in any
order, and whatever is set by the file that one of them names, a field is what the file
says of it, else what the switches say, and else its default. Where the same values are
set in other ways, with the two sources sharing them out as they may, there is the same
plan or the same failure to have one, and the same run. -/
theorem interchangeable :
    (∀ (a : Arguments) (f : Layer) (path : RawText) (args : List RawText),
      a.help = false → a.file = some path → path.isEmpty = false → args.Perm a.line →
      ∃ x : Sources, x.args = args ∧ x.switches = a ∧ x.text = f.file ∧ x.layer = f) ∧
    (∀ x : Sources, Arguments.parse x.args = .ok x.switches ∧
      ∃ s, Settings.resolve x.switches x.read = .ok s ∧ s.file = some x.path ∧
        ∀ k, s.get k = ((x.layer.get k).or (x.switches.get k)).or k.fallback) ∧
    ∀ x y : Sources, (∀ k, x.effective k = y.effective k) →
      ∃ s s', Settings.resolve x.switches x.read = .ok s ∧
        Settings.resolve y.switches y.read = .ok s' ∧ s.plan = s'.plan ∧
        (∀ answer, s.session.run answer = s'.session.run answer) ∧
        Invocation.ofArguments x.args x.read = Invocation.ofArguments y.args y.read := by
  refine ⟨fun _ _ _ _ => exists_of, fun x => ⟨x.written.parse, ?_⟩, fun x y h => ?_⟩
  · exact ⟨x.settings, x.resolve, x.file_settings, x.get_settings⟩
  · obtain ⟨hplan, hsession⟩ := session_settings_congr h
    refine ⟨x.settings, y.settings, x.resolve, y.resolve, hplan, fun answer => ?_, ?_⟩
    · rw [hsession]
    · rw [x.ofArguments_eq, y.ofArguments_eq, hsession]

/-- A port and a query, each in one source and then in the other, under files of
different names. In the first file, a switch is taken back. -/
theorem interchangeable_split :
    ∃ x y : Sources,
      x.switches = { Arguments.none with
        query := some "SHOW", verbose := true, file := some (.ofString "a.yml") } ∧
      x.layer = { Layer.empty with port := some 3307, verbose := some false } ∧
      y.switches = { Arguments.none with
        port := some 3307, file := some (.ofString "b.yml") } ∧
      y.layer = { Layer.empty with query := some "SHOW" } ∧
      Invocation.ofArguments x.args x.read = Invocation.ofArguments y.args y.read := by
  obtain ⟨x, -, hx, -, hfx⟩ := interchangeable.1
    { Arguments.none with
      query := some "SHOW", verbose := true, file := some (.ofString "a.yml") }
    { Layer.empty with port := some 3307, verbose := some false } (.ofString "a.yml") _
    rfl rfl (by decide) (.refl _)
  obtain ⟨y, -, hy, -, hfy⟩ := interchangeable.1
    { Arguments.none with port := some 3307, file := some (.ofString "b.yml") }
    { Layer.empty with query := some "SHOW" } (.ofString "b.yml") _
    rfl rfl (by decide) (.refl _)
  have heffective : ∀ k, x.effective k = y.effective k := by
    intro k
    rw [effective, effective, hx, hfx, hy, hfy]
    cases k <;> rfl
  obtain ⟨_, _, -, -, -, -, hrun⟩ := interchangeable.2.2 x y heffective
  exact ⟨x, y, hx, hfx, hy, hfy, hrun⟩

end Sources

end SqlProbe
