import SqlProbe.Proofs.Decision.Parts
import SqlProbe.Proofs.Plan

/-!
# When a check succeeds

The exit code of a check is zero in one situation only, and
`Settings.run_succeeds_iff` writes it out: the settings make a plan and ask
for no explanation, the query returns a value, and the value *passes* every
comparison (`Comparison.Passes`). Anything else, be it missing settings, a broken
rule, a failed query, a failed comparison or one that could not be made, leads to
another code.

A decision is `ok` exactly if each of its four severities is, because `ok` is the
bottom of the order (`Comparison.severity_decide_eq_ok_iff`). On the way out every
other report turns out to be unknown, critical or verbose, and none of these has
code zero.
-/

namespace SqlProbe

/-! ### Passing a comparison -/

/-- A reading passes a comparison if it passes all that is configured: it is the
expected text, the pattern matches somewhere in it, and if there is a threshold at
all, it is a number within each threshold. -/
structure Comparison.Passes (c : Comparison) (r : Reading) : Prop where
  text : ∀ t, c.expected = some t → r.raw = t
  pattern : ∀ p, c.pattern = some p → ∃ m, Pattern.compile p = .ok m ∧ m.isMatch r.raw = true
  number : c.hasThreshold = true → ∃ v, r.number = some v ∧
    ∀ level t, c.threshold level = some t →
      ∃ h, Threshold.parse t = .ok h ∧ h.evaluate v = .within

namespace Reading

variable {r : Reading}

/-- A reading is within a threshold if it is a number, and the text of the threshold
is one that this number is within. -/
def Within (r : Reading) (threshold : String) : Prop :=
  ∃ v, r.number = some v ∧ ∃ h, Threshold.parse threshold = .ok h ∧ h.evaluate v = .within

theorem againstText_eq_ok_iff {expected : Option String} :
    r.againstText expected = .ok ↔ ∀ t, expected = some t → r.raw = t := by
  cases expected with
  | none => simp
  | some t =>
    by_cases h : r.raw = t <;>
      simp [againstText, Decision.compareText, Decision.raise, Decision.start, h]

theorem againstPattern_eq_ok_iff {pattern : Option String} :
    r.againstPattern pattern = .ok ↔
      ∀ p, pattern = some p → ∃ m, Pattern.compile p = .ok m ∧ m.isMatch r.raw = true := by
  cases pattern with
  | none => simp
  | some p =>
    cases hc : Pattern.compile p with
    | error e => simp [againstPattern, Decision.comparePattern, Decision.fail, hc]
    | ok m =>
      by_cases h : m.isMatch r.raw = true <;>
        simp [againstPattern, Decision.comparePattern, Decision.raise, Decision.start, hc, h]

theorem againstThreshold_eq_ok_iff {level : Level} {threshold : Option String} :
    r.againstThreshold level threshold = .ok ↔
      ∀ t, threshold = some t → r.Within t := by
  cases threshold with
  | none => simp
  | some t =>
    simp only [Within]
    rw [againstThreshold]
    cases r.number with
    | none => simp
    | some v =>
      cases hp : Threshold.parse t with
      | error e => simp [Decision.compareThreshold, Decision.fail, hp]
      | ok h =>
        cases he : h.evaluate v with
        | within => simp [Decision.compareThreshold, Decision.note, Decision.start, hp, he]
        | violated =>
          cases level <;>
            simp [Decision.compareThreshold, Decision.raise, Decision.note, Decision.start,
              Level.severity, hp, he]

end Reading

namespace Comparison

theorem threshold_isSome {c : Comparison} {level : Level} {t : String}
    (h : c.threshold level = some t) : c.hasThreshold = true := by
  cases level with
  | warning => simp [hasThreshold, show c.warn = some t from h]
  | critical => simp [hasThreshold, show c.crit = some t from h]

/-- A reading is judged `ok` exactly if it passes. -/
theorem severity_decide_eq_ok_iff {c : Comparison} {r : Reading} :
    (c.decide r).severity = .ok ↔ c.Passes r := by
  rw [severity_decide, Severity.escalate_eq_ok_iff, Severity.escalate_eq_ok_iff,
    Severity.escalate_eq_ok_iff, Reading.againstText_eq_ok_iff, Reading.againstPattern_eq_ok_iff,
    Reading.againstThreshold_eq_ok_iff, Reading.againstThreshold_eq_ok_iff]
  constructor
  · rintro ⟨⟨text, pattern⟩, warn, crit⟩
    refine ⟨text, pattern, fun hsome => ?_⟩
    obtain ⟨level, t, ht⟩ : ∃ level t, c.threshold level = some t := by
      rw [hasThreshold, Bool.or_eq_true, Option.isSome_iff_exists,
        Option.isSome_iff_exists] at hsome
      obtain ⟨t, ht⟩ | ⟨t, ht⟩ := hsome
      · exact ⟨.warning, t, ht⟩
      · exact ⟨.critical, t, ht⟩
    have within : ∀ level t, c.threshold level = some t → r.Within t := by
      rintro (_ | _) t ht
      · exact warn t ht
      · exact crit t ht
    -- The two thresholds speak of one number.
    obtain ⟨v, hv, -⟩ := within level t ht
    refine ⟨v, hv, fun level t ht => ?_⟩
    obtain ⟨v', hv', h⟩ := within level t ht
    obtain rfl : v = v' := Option.some.inj (hv.symm.trans hv')
    exact h
  · rintro ⟨text, pattern, number⟩
    have within : ∀ level t, c.threshold level = some t → r.Within t := by
      intro level t ht
      obtain ⟨v, hv, h⟩ := number (threshold_isSome ht)
      exact ⟨v, hv, h level t ht⟩
    exact ⟨⟨text, pattern⟩, within .warning, within .critical⟩

end Comparison

/-! ### Succeeding -/

namespace Report

theorem exitCode_eq_zero_iff {r : Report} :
    r.exitCode = 0 ↔ r.verbose = false ∧ r.verdict.severity = .ok := by
  rw [exitCode]
  cases r.verbose
  · cases h : r.verdict.severity <;> simp [Verdict.exitCode, Severity.exitCode, h]
  · simp [Severity.exitCode]

end Report

/-- A failed query never leads to success. -/
theorem QueryFailure.severity_verdict_ne_ok (e : QueryFailure) : e.verdict.severity ≠ .ok := by
  cases e <;> simp [QueryFailure.verdict, Verdict.critical, Verdict.unknown]

namespace Settings

/-- **No false success and no missed one.** The exit code is zero exactly if no
explanation is asked for, everything required is there, the port is not zero, the
pattern is one, and the query returns a value that passes. -/
theorem run_succeeds_iff (s : Settings) (answer : Connection → String → Reply) :
    (s.session.run answer).exitCode = 0 ↔
      s.verbose = false ∧ s.port ≠ 0 ∧
      (∀ p, s.pattern = some p → Pattern.compiles p = true) ∧
      ∃ host database user password query raw,
        s.host = some host ∧ s.database = some database ∧ s.user = some user ∧
        s.password = some password ∧ s.query = some query ∧
        answer ⟨host, s.port, user, password, database⟩ query = .ok raw ∧
        s.comparison.Passes (Reading.ofText raw) := by
  rw [run_session, Report.exitCode_eq_zero_iff, ← and_assoc (a := s.port ≠ 0),
    ← violations_eq_nil_iff]
  cases hp : s.plan with
  | error e =>
    -- Without a plan the report is unknown, and the right-hand side would make one.
    refine iff_of_false (fun h => nomatch h.2) ?_
    rintro ⟨-, hv, host, database, user, password, query, raw, hh, hd, hu, hpw, hq, -⟩
    rw [plan_eq_ok_iff.mpr ⟨hv, host, database, user, password, query, hh, hd, hu, hpw, hq, rfl⟩]
      at hp
    cases hp
  | ok p =>
    obtain ⟨hv, host, database, user, password, query, hh, hd, hu, hpw, hq, rfl⟩ :=
      plan_eq_ok_iff.mp hp
    simp only [hv, hh, hd, hu, hpw, hq, true_and, Option.some.injEq, exists_and_left,
      exists_eq_left']
    cases ha : answer ⟨host, s.port, user, password, database⟩ query with
    | error e => simp [Plan.report, Report.ofVerdict, e.severity_verdict_ne_ok]
    | ok raw =>
      simp only [Plan.report, Except.ok.injEq, exists_eq_left']
      rw [Comparison.severity_decide_eq_ok_iff]

end Settings

end SqlProbe
