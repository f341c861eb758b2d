import SqlProbe.Invocation
import SqlProbe.Proofs.Report
import SqlProbe.Proofs.Session

/-!
# How a run ends without a query

Between the arguments and the query there are six *obstacles*, and the first of them
that is there ends the run (`Obstacle.all` has them in order). Each is stated by itself,
whatever the others are (`Obstacle.applies`); that they are met in this order is what
is to be shown.

`Invocation.ends_first` walks through the layers once and says how a run ends after the
first obstacle, or without one: with the help text, with a report that there are no
settings, or with a query. Everything else is read off the three ways to end
(`Invocation.Ends`). A report that there are no settings is one line and has the exit
code of an unknown status, whatever its message quotes and whether the run is verbose
or not; and its message opens with words that belong to one obstacle only
(`Obstacle.Prints.unique`), so that what is printed tells which obstacle it was.
-/

namespace SqlProbe

/-! ### Obstacles -/

/-- What can keep a run from its query. -/
inductive Obstacle where
  /-- The arguments are refused. -/
  | badArguments
  /-- The help text is asked for. -/
  | help
  /-- The file of settings cannot be read. -/
  | unreadable
  /-- The file of settings makes no sense. -/
  | malformed
  /-- Something required is absent. -/
  | missing
  /-- A rule is broken. -/
  | invalid
deriving DecidableEq, Repr

namespace Obstacle

variable {args : List RawText} {read : FileReader}

/-- Every obstacle, in the order in which they are met. -/
def all : List Obstacle := [badArguments, help, unreadable, malformed, missing, invalid]

theorem mem_all (o : Obstacle) : o ∈ all := by cases o <;> decide

/-- The file that the arguments name. -/
def namedFile? (args : List RawText) : Option RawText :=
  (Arguments.parse args).toOption.bind Arguments.file

/-- The settings of the arguments and the file they name. -/
def gathered? (args : List RawText) (read : FileReader) : Option Settings :=
  (Arguments.parse args).toOption.bind fun a => (Settings.resolve a read).toOption

/-- Whether an obstacle is there, whatever else is. -/
def applies (args : List RawText) (read : FileReader) : Obstacle → Bool
  | badArguments => !(Arguments.parse args).isOk
  | help => (Arguments.parse args).toOption.any Arguments.help
  | unreadable => (namedFile? args).any fun name => !(read.text name).isOk
  | malformed => (namedFile? args).any fun name =>
      (read.text name).toOption.any fun text => !(Layer.parse text).isOk
  -- Of settings that cannot be gathered nothing is absent or invalid.
  | missing => (gathered? args read).any fun s => !s.absentNames.isEmpty
  | invalid => (gathered? args read).any fun s =>
      s.port == 0 || s.pattern.any fun p => !Pattern.compiles p

/-- Settings are valid exactly if they break no rule. -/
theorem invalid_applies_eq_false_iff {s : Settings} (hs : gathered? args read = some s) :
    invalid.applies args read = false ↔ s.violations = [] := by
  have happlies : invalid.applies args read =
      (s.port == 0 || s.pattern.any fun p => !Pattern.compiles p) := by rw [applies, hs]; rfl
  rw [happlies, Settings.violations_eq_nil_iff, Bool.or_eq_false_iff, beq_eq_false_iff_ne]
  refine and_congr_right fun _ => ?_
  cases s.pattern <;> simp

/-- The first obstacle of a run. -/
def first? (args : List RawText) (read : FileReader) : Option Obstacle :=
  all.find? (applies args read)

theorem first?_eq_none_iff : first? args read = none ↔ ∀ o, applies args read o = false := by
  simp only [first?, List.find?_eq_none, mem_all, true_imp_iff, Bool.not_eq_true]

/-- The help text is due exactly if the arguments are accepted and ask for it. -/
theorem first?_eq_help_iff : first? args read = some help ↔
    ∃ a, Arguments.parse args = .ok a ∧ a.help = true := by
  have happlies : help.applies args read =
      (Arguments.parse args).toOption.any Arguments.help := rfl
  constructor
  · intro h
    have hhelp := happlies.symm.trans (List.find?_some h)
    cases ha : Arguments.parse args with
    | error e => rw [ha] at hhelp; cases hhelp
    | ok a => rw [ha] at hhelp; exact ⟨a, rfl, hhelp⟩
  · rintro ⟨a, ha, hhelp⟩
    have hrefused : badArguments.applies args read = false := by rw [applies, ha]; rfl
    rw [ha] at happlies
    rw [first?, all, List.find?_cons_of_neg (Bool.eq_false_iff.mp hrefused),
      List.find?_cons_of_pos (happlies.trans hhelp)]

/-! ### What is printed about them -/

/-- What a message about the obstacle opens with. The help text is no message. -/
def opening? : Obstacle → Option String
  | badArguments => some "Invalid arguments: "
  | help => none
  | unreadable => some "Failed to read configuration file: "
  | malformed => some "Failed to parse YAML: "
  | missing => some "Need to specify:"
  | invalid => some "Invalid configuration: "

/-- What is printed about an obstacle: one line that opens in its words, or the help
text. -/
def Prints (o : Obstacle) (printed : String) : Prop :=
  match o.opening? with
  | some opening => ∃ detail, printed = "UNKNOWN: " ++ opening ++ detail ++ "\n" ∧
      Report.OneLine ("UNKNOWN: " ++ opening ++ detail)
  | none => printed = helpText ++ "\n"

theorem opening?_eq_none_iff {o : Obstacle} : o.opening? = none ↔ o = help := by
  cases o <;> simp [opening?]

theorem oneLine_opening {o : Obstacle} {opening : String} (h : o.opening? = some opening) :
    Report.OneLine opening := by
  cases o <;> cases h <;> decide +kernel

/-- No opening begins another. -/
theorem eq_of_opening_isPrefix {o o' : Obstacle} {opening opening' : String}
    (h : o.opening? = some opening) (h' : o'.opening? = some opening')
    (hp : opening.toList <+: opening'.toList) : o = o' := by
  cases o <;> cases h <;> cases o' <;> cases h' <;> first | rfl | simp at hp

set_option maxRecDepth 4000 in
-- As a list the text is as deep as it is long.
theorem helpText_eq_ofList : ∃ rest, helpText = String.ofList ('M' :: rest) := ⟨_, rfl⟩

/-- The help text is no line of status: the two begin with different letters. -/
theorem line_ne_helpText (opening detail : String) :
    "UNKNOWN: " ++ opening ++ detail ++ "\n" ≠ helpText ++ "\n" := by
  intro h
  obtain ⟨rest, hrest⟩ := helpText_eq_ofList
  have hline : ("UNKNOWN: " ++ opening ++ detail ++ "\n").toList.head? = some 'U' := by
    simp [String.toList_append]
  have hhelp : (helpText ++ "\n").toList.head? = some 'M' := by
    rw [hrest, String.toList_append, String.toList_ofList]; rfl
  rw [h, hhelp] at hline
  simp at hline

/-- Two lines with the same text open in the words of the same obstacle. -/
theorem eq_of_line_eq {o o' : Obstacle} {opening opening' detail detail' : String}
    (h : o.opening? = some opening) (h' : o'.opening? = some opening')
    (hline : "UNKNOWN: " ++ opening ++ detail ++ "\n" =
      "UNKNOWN: " ++ opening' ++ detail' ++ "\n") : o = o' := by
  have hchars : opening.toList ++ (detail.toList ++ ['\n']) =
      opening'.toList ++ (detail'.toList ++ ['\n']) := by
    simpa [String.toList_append] using congrArg String.toList hline
  have hprefix := List.prefix_append opening.toList (detail.toList ++ ['\n'])
  rw [hchars] at hprefix
  -- Both openings begin the same text, so that one of them begins the other.
  rcases List.prefix_or_prefix_of_prefix hprefix (List.prefix_append ..) with hp | hp
  · exact eq_of_opening_isPrefix h h' hp
  · exact (eq_of_opening_isPrefix h' h hp).symm

/-- What is printed tells the obstacle. -/
theorem Prints.unique {o o' : Obstacle} {printed : String} (h : o.Prints printed)
    (h' : o'.Prints printed) : o = o' := by
  rw [Prints] at h h'
  cases hopening : o.opening? with
  | some opening =>
    rw [hopening] at h
    obtain ⟨detail, hprinted, -⟩ := h
    cases hopening' : o'.opening? with
    | some opening' =>
      rw [hopening'] at h'
      obtain ⟨detail', hprinted', -⟩ := h'
      exact eq_of_line_eq hopening hopening' (hprinted.symm.trans hprinted')
    | none =>
      rw [hopening'] at h'
      exact absurd (hprinted.symm.trans h') (line_ne_helpText opening detail)
  | none =>
    rw [hopening] at h
    cases hopening' : o'.opening? with
    | some opening' =>
      rw [hopening'] at h'
      obtain ⟨detail', hprinted', -⟩ := h'
      exact absurd (hprinted'.symm.trans h) (line_ne_helpText opening' detail')
    | none => rw [opening?_eq_none_iff.mp hopening, opening?_eq_none_iff.mp hopening']

end Obstacle

namespace Invocation

variable {args : List RawText} {read : FileReader}

/-! ### The ways to end -/

/-- **How a run ends** after its first obstacle, or without one. -/
inductive Ends : Option Obstacle → Invocation → Prop where
  /-- The help text is printed. -/
  | help : Ends (some .help) .help
  /-- A report says that there are no settings, in words that open as those of the
  obstacle do. -/
  | refused {o : Obstacle} {opening detail : String} {e : SettingsError} {verbose : Bool}
      (hopening : o.opening? = some opening) (hmessage : e.message = opening ++ detail) :
      Ends (some o) (.check (.finished (.ofSettingsError e verbose)))
  /-- A query is asked. -/
  | asks {connection : Connection} {query : String} {resume : Reply → Report} :
      Ends none (.check (.asks connection query resume))

/-- A query is asked exactly if there is no obstacle. -/
theorem Ends.asks_iff {first : Option Obstacle} {i : Invocation} (h : Ends first i) :
    (∃ connection query resume, i = .check (.asks connection query resume)) ↔ first = none := by
  cases h <;> simp

/-- After an obstacle the status is unknown, and what is printed is about the obstacle. -/
theorem Ends.prints {o : Obstacle} {i : Invocation} (h : Ends (some o) i)
    (answer : Connection → String → Reply) :
    i.exitCode answer = 3 ∧ o.Prints (i.text answer) := by
  cases h with
  | help => exact ⟨rfl, rfl⟩
  | @refused _ opening detail e verbose hopening hmessage =>
    refine ⟨Report.exitCode_ofSettingsError e verbose, ?_⟩
    have hline : "UNKNOWN: " ++ Report.flatten e.message =
        "UNKNOWN: " ++ opening ++ Report.flatten detail := by
      rw [hmessage, Report.flatten_append,
        -- The opening has no line break, so that only the detail changes.
        Report.flatten_of_oneLine (Obstacle.oneLine_opening hopening), String.append_assoc]
    have hlabel : Report.OneLine "UNKNOWN: " := by decide +kernel
    rw [Obstacle.Prints, hopening]
    refine ⟨Report.flatten detail, ?_, ?_⟩
    · rw [← hline]
      exact Report.text_ofSettingsError e verbose
    · rw [← hline]
      exact Report.oneLine_append.mpr ⟨hlabel, Report.oneLine_flatten e.message⟩

/-! ### The walk through the layers -/

/-- From the settings on there are two obstacles left. -/
theorem ends_session {s : Settings} (hs : Obstacle.gathered? args read = some s) :
    Ends ([.missing, .invalid].find? (Obstacle.applies args read)) (.check s.session) := by
  have hmissing : Obstacle.missing.applies args read = !s.absentNames.isEmpty := by
    rw [Obstacle.applies, hs]; rfl
  -- What is absent is met before what is broken, so it is split off first.
  by_cases habsent : s.absentNames = []
  · rw [List.find?_cons_of_neg (by simp [hmissing, habsent])]
    by_cases hbroken : s.violations = []
    · have hinvalid := (Obstacle.invalid_applies_eq_false_iff hs).mpr hbroken
      obtain ⟨_, _, _, _, _, _, -, -, -, -, -, hsession, -⟩ :=
        Settings.session_of_complete habsent hbroken
      rw [List.find?_cons_of_neg (Bool.eq_false_iff.mp hinvalid), hsession]
      exact .asks
    · have hinvalid := Bool.of_not_eq_false
        (mt (Obstacle.invalid_applies_eq_false_iff hs).mp hbroken)
      rw [List.find?_cons_of_pos hinvalid, Settings.session_of_broken habsent hbroken]
      exact .refused rfl rfl
  · rw [List.find?_cons_of_pos (by simp [hmissing, habsent]), Settings.session_of_absent habsent]
    exact .refused rfl (String.append_assoc ..)

/-- What is left to do for arguments that are accepted and ask for no help. -/
theorem ofArguments_eq {a : Arguments} (ha : Arguments.parse args = .ok a)
    (hhelp : a.help = false) : ofArguments args read =
      match Settings.resolve a read with
      | .error e => .check (.finished (.ofSettingsError e a.verbose))
      | .ok s => .check s.session := by
  rw [ofArguments, ha]
  exact if_neg (Bool.eq_false_iff.mp hhelp)

/-- From the file on, if there is one. -/
theorem ends_file {a : Arguments} {name : RawText} (ha : Arguments.parse args = .ok a)
    (hhelp : a.help = false) (hfile : a.file = some name) :
    Ends ([.unreadable, .malformed, .missing, .invalid].find? (Obstacle.applies args read))
      (ofArguments args read) := by
  have hnamed : Obstacle.namedFile? args = some name := by rw [Obstacle.namedFile?, ha]; exact hfile
  have hresolve : Settings.resolve a read = (Settings.ofArguments a).overlayFile read name := by
    rw [Settings.resolve, hfile]
  rw [ofArguments_eq ha hhelp]
  rw [Settings.overlayFile] at hresolve
  cases htext : read.text name with
  | error e =>
    -- There is no text, and so neither sense to be made of it nor any settings.
    have hunreadable : Obstacle.unreadable.applies args read = true := by
      rw [Obstacle.applies, hnamed, Option.any_some, htext]; rfl
    rw [htext] at hresolve
    rw [List.find?_cons_of_pos hunreadable, hresolve]
    exact .refused rfl rfl
  | ok text =>
    have hreadable : Obstacle.unreadable.applies args read = false := by
      rw [Obstacle.applies, hnamed, Option.any_some, htext]; rfl
    have hmalformed : Obstacle.malformed.applies args read = !(Layer.parse text).isOk := by
      rw [Obstacle.applies, hnamed, Option.any_some, htext]; rfl
    rw [htext] at hresolve
    rw [List.find?_cons_of_neg (Bool.eq_false_iff.mp hreadable)]
    cases hlayer : Layer.parse text with
    | error e =>
      rw [hlayer] at hmalformed
      simp only [hlayer] at hresolve
      rw [List.find?_cons_of_pos hmalformed, hresolve]
      exact .refused rfl rfl
    | ok l =>
      rw [hlayer] at hmalformed
      simp only [hlayer] at hresolve
      rw [List.find?_cons_of_neg (Bool.eq_false_iff.mp hmalformed), hresolve]
      -- Now there are settings, and what is left concerns them only.
      refine ends_session ?_
      rw [Obstacle.gathered?, ha]
      exact congrArg Except.toOption hresolve

/-- From the settings of the arguments on, if there is no file. -/
theorem ends_noFile {a : Arguments} (ha : Arguments.parse args = .ok a)
    (hhelp : a.help = false) (hfile : a.file = none) :
    Ends ([.unreadable, .malformed, .missing, .invalid].find? (Obstacle.applies args read))
      (ofArguments args read) := by
  have hnamed : Obstacle.namedFile? args = none := by rw [Obstacle.namedFile?, ha]; exact hfile
  have hreadable : Obstacle.unreadable.applies args read = false := by
    rw [Obstacle.applies, hnamed]; rfl
  have hwellFormed : Obstacle.malformed.applies args read = false := by
    rw [Obstacle.applies, hnamed]; rfl
  have hresolve : Settings.resolve a read = .ok (.ofArguments a) := by
    rw [Settings.resolve, hfile]
  rw [ofArguments_eq ha hhelp, List.find?_cons_of_neg (Bool.eq_false_iff.mp hreadable),
    List.find?_cons_of_neg (Bool.eq_false_iff.mp hwellFormed), hresolve]
  refine ends_session ?_
  rw [Obstacle.gathered?, ha]
  exact congrArg Except.toOption hresolve

/-- **The walk through the layers.** -/
theorem ends_first (args : List RawText) (read : FileReader) :
    Ends (Obstacle.first? args read) (ofArguments args read) := by
  have hrefused : Obstacle.badArguments.applies args read = !(Arguments.parse args).isOk := rfl
  have hasked : Obstacle.help.applies args read =
      (Arguments.parse args).toOption.any Arguments.help := rfl
  rw [Obstacle.first?, Obstacle.all]
  cases ha : Arguments.parse args with
  | error e =>
    rw [ha] at hrefused
    rw [List.find?_cons_of_pos hrefused, ofArguments, ha]
    exact .refused rfl rfl
  | ok a =>
    rw [ha] at hrefused hasked
    rw [List.find?_cons_of_neg (Bool.eq_false_iff.mp hrefused)]
    cases hhelp : a.help with
    | true =>
      rw [List.find?_cons_of_pos (hasked.trans hhelp), ofArguments, ha]
      simp only [hhelp, if_true]
      exact .help
    | false =>
      -- Only here does a file matter: help is printed whatever file is named.
      rw [List.find?_cons_of_neg (Bool.eq_false_iff.mp (hasked.trans hhelp))]
      cases hfile : a.file with
      | none => exact ends_noFile ha hhelp hfile
      | some name => exact ends_file ha hhelp hfile

/-- **Ends without a query.** A query is asked exactly if there is no obstacle. Otherwise
the exit code is that of an unknown status, the help text is printed exactly if the
arguments are accepted and ask for it, and what is printed is about the first obstacle
and about no other. -/
theorem reports_first_obstacle (args : List RawText) (read : FileReader) :
    ((∃ connection query resume,
        ofArguments args read = .check (.asks connection query resume)) ↔
      ∀ o, Obstacle.applies args read o = false) ∧
    ((¬ ∃ connection query resume,
        ofArguments args read = .check (.asks connection query resume)) →
      ∃ o, Obstacle.first? args read = some o ∧ ∀ answer,
        (ofArguments args read).exitCode answer = 3 ∧
        ((ofArguments args read).text answer = helpText ++ "\n" ↔
          ∃ a, Arguments.parse args = .ok a ∧ a.help = true) ∧
        ∀ o' : Obstacle, o'.Prints ((ofArguments args read).text answer) ↔ o' = o) := by
  have hends := ends_first args read
  refine ⟨hends.asks_iff.trans Obstacle.first?_eq_none_iff, fun hnone => ?_⟩
  rw [hends.asks_iff] at hnone
  obtain ⟨o, ho⟩ := Option.ne_none_iff_exists'.mp hnone
  rw [ho] at hends
  refine ⟨o, ho, fun answer => ?_⟩
  obtain ⟨hcode, hprints⟩ := hends.prints answer
  have honly : ∀ o' : Obstacle, o'.Prints ((ofArguments args read).text answer) ↔ o' = o :=
    fun o' => ⟨fun h => h.unique hprints, fun h => h ▸ hprints⟩
  refine ⟨hcode, ?_, honly⟩
  -- The help text is what is printed about `help`, hence about no other obstacle.
  rw [← @Obstacle.first?_eq_help_iff args read, ho, Option.some.injEq, eq_comm (a := o)]
  exact honly .help

-- A pattern that is none is not looked at while something required is absent.
example : Obstacle.first? (["-r", "("].map RawText.ofString) (fun _ => .error .notFound) =
    some .missing := by decide +kernel

end Invocation

end SqlProbe
