import SqlProbe.Proofs.Plan

/-!
# What a session comes to

Settings make one of three sessions, and which one is settled in two steps. If
something required is absent, the session is finished and names all that is absent,
whatever else may be wrong. If nothing is absent and a rule is broken, it is finished
and lists the broken rules. Otherwise it asks the one query of the settings, with the
parts of the connection as they were set, and the reply decides the report.

* `Settings.session_of_absent`, `Settings.session_of_broken` and
  `Settings.session_of_complete`: the three sessions.
* `Plan.judges_report`: what a report makes of each kind of reply.

`Settings.session_discipline` puts them together. A session that asks has asked once:
what comes after is a function of the reply, with no further query in it.
-/

namespace SqlProbe

/-! ### Replies -/

/-- **What becomes of a reply.** A failure is critical and has its own words, a query
without a row cannot be judged, and a value is judged by the comparison. -/
structure Comparison.Judges (c : Comparison) (resume : Reply → Report) : Prop where
  connection : ∀ detail, (resume (.error (.connection detail))).verdict = .critical detail
  query : ∀ detail, (resume (.error (.query detail))).verdict = .critical detail
  noRows : (resume (.error .noRows)).verdict = .unknown "Query returned no rows."
  severity : ∀ raw, (resume (.ok raw)).verdict.severity = (c.decide (.ofText raw)).severity
  message : ∀ raw, (resume (.ok raw)).verdict.message = (c.decide (.ofText raw)).message

theorem Plan.judges_report (p : Plan) : p.comparison.Judges p.report where
  connection _ := rfl
  query _ := rfl
  noRows := rfl
  severity _ := rfl
  message _ := rfl

namespace Settings

variable {s : Settings}

/-! ### What is absent -/

/-- What is required, under the names of reports and in their order. -/
def requirements (s : Settings) : List (String × Option String) :=
  [("mysql_host", s.host), ("mysql_database", s.database), ("mysql_user", s.user),
    ("mysql_pass", s.password), ("query", s.query)]

/-- The names of what is required and absent. A text that is empty is there. -/
def absentNames (s : Settings) : List String :=
  (s.requirements.filter fun r => r.2.isNone).map Prod.fst

theorem map_name_missing (s : Settings) : s.missing.map Required.name = s.absentNames := by
  have hall : s.requirements = Required.all.map fun r => (r.name, s.required? r) := rfl
  rw [absentNames, hall, List.filter_map, List.map_map]
  rfl

/-- Nothing is absent exactly if all five are there. -/
theorem absentNames_eq_nil_iff :
    s.absentNames = [] ↔ ∃ host database user password query,
      s.host = some host ∧ s.database = some database ∧ s.user = some user ∧
      s.password = some password ∧ s.query = some query := by
  rw [absentNames, List.map_eq_nil_iff, List.filter_eq_nil_iff]
  simp only [requirements, List.forall_mem_cons, Option.isNone_iff_eq_none,
    ← Option.isSome_iff_ne_none, Option.isSome_iff_exists]
  constructor
  · rintro ⟨⟨host, hh⟩, ⟨database, hd⟩, ⟨user, hu⟩, ⟨password, hp⟩, ⟨query, hq⟩, -⟩
    exact ⟨host, database, user, password, query, hh, hd, hu, hp, hq⟩
  · rintro ⟨host, database, user, password, query, hh, hd, hu, hp, hq⟩
    exact ⟨⟨host, hh⟩, ⟨database, hd⟩, ⟨user, hu⟩, ⟨password, hp⟩, ⟨query, hq⟩,
      List.forall_mem_nil _⟩

/-! ### What is broken -/

/-- Whether settings break a rule. -/
def Breaks (s : Settings) : Violation → Prop
  | .portRange => s.port = 0
  | .badPattern p => s.pattern = some p ∧ Pattern.compiles p = false

/-- The list, one part for each rule. -/
theorem violations_eq (s : Settings) :
    s.violations = (if s.port = 0 then [.portRange] else []) ++
      (s.pattern.toList.filter fun p => !Pattern.compiles p).map .badPattern := by
  rw [violations]
  cases s.pattern with
  | none => rfl
  | some p => cases hp : Pattern.compiles p <;> simp [hp]

/-- The broken rules are listed, and no others. -/
theorem mem_violations_iff {v : Violation} : v ∈ s.violations ↔ s.Breaks v := by
  rw [violations_eq, List.mem_append]
  cases v with
  | portRange =>
    -- The two rules have a part of the list each, and neither is in that of the other.
    have hpattern : .portRange ∉
        (s.pattern.toList.filter fun p => !Pattern.compiles p).map Violation.badPattern := by simp
    rw [Breaks, or_iff_left hpattern]
    by_cases h : s.port = 0 <;> simp [h]
  | badPattern q =>
    have hport : .badPattern q ∉ (if s.port = 0 then [.portRange] else [] : List Violation) := by
      split <;> simp
    rw [Breaks, or_iff_right hport]
    simp

/-- Each of them is listed once. -/
theorem nodup_violations (s : Settings) : s.violations.Nodup := by
  rw [violations_eq]
  by_cases h : s.port = 0 <;> cases s.pattern with
  | none => simp [h]
  | some p => cases hp : Pattern.compiles p <;> simp [h, hp]

/-! ### The three sessions -/

/-- Something is absent. Nothing else is looked at. -/
theorem session_of_absent (h : s.absentNames ≠ []) :
    s.session = .finished (.ofSettingsError (.missing s.absentNames) s.verbose) := by
  have hplan : s.plan = .error (.missing s.absentNames) := by
    rw [plan]
    split
    -- All five are there, against the assumption.
    · next hh hd hu hp hq =>
      exact absurd (absentNames_eq_nil_iff.mpr ⟨_, _, _, _, _, hh, hd, hu, hp, hq⟩) h
    · rw [map_name_missing]
  rw [session, hplan]

/-- Nothing is absent, and a rule is broken. What validation lists is the error. -/
theorem plan_of_broken (h : s.absentNames = []) (hv : s.violations ≠ []) :
    s.plan = .error (.invalid s.violations) := by
  obtain ⟨host, database, user, password, query, hh, hd, hu, hp, hq⟩ := absentNames_eq_nil_iff.mp h
  have hvalidate : s.validate = .error (.invalid s.violations) := by
    rw [validate, if_neg]
    rwa [List.isEmpty_iff]
  rw [plan, hh, hd, hu, hp, hq]
  simp only [hvalidate]
  rfl

theorem session_of_broken (h : s.absentNames = []) (hv : s.violations ≠ []) :
    s.session = .finished (.ofSettingsError (.invalid s.violations) s.verbose) := by
  rw [session, plan_of_broken h hv]

/-- Nothing is absent, and no rule is broken. -/
theorem session_of_complete (h : s.absentNames = []) (hv : s.violations = []) :
    ∃ host database user password query resume,
      s.host = some host ∧ s.database = some database ∧ s.user = some user ∧
      s.password = some password ∧ s.query = some query ∧
      s.session = .asks ⟨host, s.port, user, password, database⟩ query resume ∧
      s.comparison.Judges resume := by
  obtain ⟨host, database, user, password, query, hh, hd, hu, hp, hq⟩ := absentNames_eq_nil_iff.mp h
  have hplan := plan_eq_ok_iff.mpr
    ⟨hv, host, database, user, password, query, hh, hd, hu, hp, hq, rfl⟩
  refine ⟨host, database, user, password, query, Plan.report _, hh, hd, hu, hp, hq, ?_,
    Plan.judges_report ⟨⟨host, s.port, user, password, database⟩, query, s.comparison, s.verbose⟩⟩
  rw [session, hplan]
  rfl

/-- **Discipline.** If anything required is absent, no query is asked and the report
names what is absent, in the order of the requirements. Otherwise, if a rule is
broken, no query is asked, and validation gives the list of the broken rules, each of
them once, which is what the report says.
Otherwise one query is asked, with every part of the connection as it was set, and the
reply is judged by the comparison of the settings. -/
theorem session_discipline (s : Settings) :
    (s.absentNames ≠ [] → s.session = .finished
      { verdict := .unknown
          ("Need to specify:" ++ String.join (s.absentNames.map (" " ++ ·)) ++ ".")
        notes := [], verbose := s.verbose }) ∧
    (s.absentNames = [] → (∃ v, s.Breaks v) → ∃ broken : List Violation,
      (∀ v, v ∈ broken ↔ s.Breaks v) ∧ broken.Nodup ∧
      s.plan = .error (.invalid broken) ∧
      s.session = .finished
        { verdict := .unknown
            ("Invalid configuration: " ++ "\n".intercalate (broken.map Violation.message))
          notes := [], verbose := s.verbose }) ∧
    (s.absentNames = [] → (¬ ∃ v, s.Breaks v) →
      ∃ host database user password query resume,
        s.host = some host ∧ s.database = some database ∧ s.user = some user ∧
        s.password = some password ∧ s.query = some query ∧
        s.session = .asks
          { host := host, port := s.port, user := user, password := password,
            database := database } query resume ∧
        Comparison.Judges
          { expected := s.expected, pattern := s.pattern, warn := s.warn, crit := s.crit }
          resume) := by
  have hviolations : s.violations = [] ↔ ¬ ∃ v, s.Breaks v := by
    simp only [← mem_violations_iff, not_exists, List.eq_nil_iff_forall_not_mem]
  refine ⟨fun h => session_of_absent h, ?_, ?_⟩
  · intro h hbroken
    have hne : s.violations ≠ [] := fun hnil => hviolations.mp hnil hbroken
    exact ⟨s.violations, fun v => mem_violations_iff, s.nodup_violations, plan_of_broken h hne,
      session_of_broken h hne⟩
  · intro h hbroken
    exact session_of_complete h (hviolations.mpr hbroken)

end Settings

end SqlProbe
