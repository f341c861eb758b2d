import SqlProbe.Session

/-!
# When there is a plan

Settings are turned into a plan in two steps: what is required has to be there,
and no rule may be broken. `Settings.plan_eq_ok_iff` says exactly when both
steps succeed and what the plan then is, and `Settings.run_session` what is
reported with and without a plan, so that later results about a run need neither
definition.
-/

namespace SqlProbe

namespace Settings

variable {s : Settings}

/-- Neither rule is broken: the port is not zero, and the pattern is one. -/
theorem violations_eq_nil_iff :
    s.violations = [] ↔ s.port ≠ 0 ∧ ∀ p, s.pattern = some p → Pattern.compiles p = true := by
  rw [violations, List.append_eq_nil_iff]
  refine and_congr ?_ ?_
  · by_cases h : s.port = 0 <;> simp [h]
  · cases s.pattern with
    | none => simp
    | some p => by_cases h : Pattern.compiles p = true <;> simp [h]

/-- **When there is a plan.** Everything required is there and no rule is
broken, and the plan is made of the settings as they are. -/
theorem plan_eq_ok_iff {p : Plan} :
    s.plan = .ok p ↔ s.violations = [] ∧
      ∃ host database user password query,
        s.host = some host ∧ s.database = some database ∧ s.user = some user ∧
        s.password = some password ∧ s.query = some query ∧
        p = ⟨⟨host, s.port, user, password, database⟩, query, s.comparison, s.verbose⟩ := by
  rw [plan]
  split
  · next host database user password query hh hd hu hp hq =>
    simp only [validate, List.isEmpty_iff]
    split
    · next hv =>
      simp only [hv, hh, hd, hu, hp, hq, Except.map, true_and, Except.ok.injEq, Option.some.injEq,
        exists_and_left, exists_eq_left', eq_comm]
    · next hv => simp [Except.map, hv]
  · next habsent =>
    -- One of the five is absent, so the right-hand side asks for too much.
    refine iff_of_false (fun h => nomatch h) ?_
    rintro ⟨-, host, database, user, password, query, hh, hd, hu, hp, hq, -⟩
    exact habsent _ _ _ _ _ hh hd hu hp hq

/-- What is reported, with a plan and without one. -/
theorem run_session (answer : Connection → String → Reply) :
    s.session.run answer = match s.plan with
      | .ok p => p.report (answer p.connection p.query)
      | .error e => .ofSettingsError e s.verbose := by
  rw [session]
  cases s.plan <;> rfl

end Settings

end SqlProbe
