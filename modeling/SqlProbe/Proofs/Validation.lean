import SqlProbe.Proofs.Decision.Stages
import SqlProbe.Proofs.Session

/-!
# What validation is good for

A pattern is looked at twice: before there is a plan, where one that is none is
refused, and in every decision, where one that is none makes the status unknown.
The second look is a guard that never fires in a check. Whatever a query answers,
a plan decides on it without that failure (`Comparison.isPatternFailure_iff`, with
the pattern of the settings carried into the plan as it is).

The guard before the plan is not too strict either. A pattern it refuses is one
with which no decision can be made, on any reading and in any company
(`Comparison.not_compiles_iff`). `Settings.validation_guards` has both directions.
-/

namespace SqlProbe

/-- The verdict that the pattern is none. -/
def Verdict.IsPatternFailure (v : Verdict) : Prop :=
  v.severity = .unknown ∧ v.message = "Regex syntax failure."

namespace Comparison

variable {c : Comparison} {r : Reading}

theorem badPattern_applies_iff :
    Cause.badPattern.applies c r = true ↔
      ∃ t, c.pattern = some t ∧ Pattern.compiles t = false := by
  unfold Cause.applies
  cases c.pattern <;> simp

/-- No other cause says the same. -/
theorem message_eq_badPattern_iff {k : Cause} :
    k.message = "Regex syntax failure." ↔ k = .badPattern := by
  obtain _ | _ | level := k
  case badThreshold => cases level <;> decide
  all_goals decide

/-- **The failure in a decision** comes from the pattern alone. -/
theorem isPatternFailure_iff :
    (c.decide r).IsPatternFailure ↔ ∃ t, c.pattern = some t ∧ Pattern.compiles t = false := by
  rw [← badPattern_applies_iff (r := r)]
  constructor
  · rintro ⟨hu, hm⟩
    obtain ⟨k, hk⟩ := unknown_iff_cause.mp hu
    rw [message_of_cause hk, message_eq_badPattern_iff] at hm
    rw [← hm]
    exact applies_of_cause hk
  · intro h
    -- It is the first cause, so nothing else can be in its way.
    have hk : (c.decision r).cause = some .badPattern := by
      rw [cause_decision, Cause.all, List.find?_cons_of_pos h]
    exact ⟨unknown_iff_cause.mpr ⟨_, hk⟩, message_of_cause hk⟩

/-- The patterns that are none are those with which every decision fails. -/
theorem not_compiles_iff {t : String} :
    Pattern.compiles t = false ↔
      ∀ (c : Comparison) (r : Reading), c.pattern = some t → (c.decide r).IsPatternFailure := by
  constructor
  · intro h c r hc
    exact isPatternFailure_iff.mpr ⟨t, hc, h⟩
  · intro h
    obtain ⟨t', ht', hfalse⟩ :=
      isPatternFailure_iff.mp (h ⟨none, some t, none, none⟩ (.ofText "") rfl)
    obtain rfl : t = t' := Option.some.inj ht'
    exact hfalse

/-- A cause other than a bad pattern is about a threshold, and there is one. -/
theorem hasThreshold_of_applies {k : Cause} (hk : k ≠ .badPattern) (h : k.applies c r = true) :
    c.hasThreshold = true := by
  unfold hasThreshold
  cases k with
  | badPattern => exact absurd rfl hk
  | notNumeric => exact (Bool.and_eq_true_iff.mp h).1
  | badThreshold level =>
    cases level with
    | warning =>
      change c.warn.any _ = true at h
      rw [Option.isSome_of_any h, Bool.true_or]
    | critical =>
      change c.crit.any _ = true at h
      rw [Option.isSome_of_any h, Bool.or_true]

/-- **Unknown for another reason** than the pattern: a threshold is configured, and the
message is one of three. -/
theorem unknown_of_other_cause (hne : (c.decision r).cause ≠ some .badPattern)
    (hu : (c.decide r).severity = .unknown) :
    c.hasThreshold = true ∧
      (c.decide r).message ∈ ["Result contains non-numeric characters.",
        "Warn threshold syntax failure.", "Critical threshold syntax failure."] := by
  obtain ⟨k, hk⟩ := unknown_iff_cause.mp hu
  have hother : k ≠ .badPattern := by
    rintro rfl
    exact hne hk
  refine ⟨hasThreshold_of_applies hother (applies_of_cause hk), ?_⟩
  rw [message_of_cause hk]
  -- Three causes are left, with a text each.
  obtain _ | _ | level := k
  · exact absurd rfl hother
  · decide
  · cases level <;> decide

end Comparison

namespace Settings

variable {s : Settings} {p : Plan}

/-- What validation leaves of port and pattern, in the plan it lets through. -/
theorem valid_of_plan (h : s.plan = .ok p) :
    p.connection.port ≠ 0 ∧
      ∀ t, p.comparison.pattern = some t → Pattern.compiles t = true := by
  obtain ⟨hv, host, database, user, password, query, -, -, -, -, -, rfl⟩ := plan_eq_ok_iff.mp h
  exact violations_eq_nil_iff.mp hv

/-- The pattern of a plan is no cause, whatever is decided. -/
theorem badPattern_not_applies_of_plan (h : s.plan = .ok p) (r : Reading) :
    ¬ Cause.badPattern.applies p.comparison r = true := by
  rw [Comparison.badPattern_applies_iff]
  rintro ⟨t, ht, hfalse⟩
  exact absurd ((valid_of_plan h).2 t ht) (ne_true_of_eq_false hfalse)

/-- With a plan, no reply at all leads to the failure. -/
theorem not_isPatternFailure_report (h : s.plan = .ok p) (reply : Reply) :
    ¬ (p.report reply).verdict.IsPatternFailure := by
  rintro ⟨hs, hm⟩
  cases reply with
  | error e =>
    cases e with
    | connection detail =>
      rw [p.judges_report.connection] at hs
      cases hs
    | query detail =>
      rw [p.judges_report.query] at hs
      cases hs
    | noRows =>
      -- The status is unknown here as well, and the text is another.
      rw [p.judges_report.noRows] at hm
      exact absurd hm (by decide)
  | ok raw =>
    have hfails : (p.comparison.decide (.ofText raw)).IsPatternFailure := ⟨hs, hm⟩
    refine badPattern_not_applies_of_plan h (.ofText raw) ?_
    rw [Comparison.badPattern_applies_iff]
    exact Comparison.isPatternFailure_iff.mp hfails

/-- Everything required is there, so only validation stands between the settings
and a plan. -/
theorem plan_eq_error_iff (h : s.absentNames = []) :
    (∃ e, s.plan = .error e) ↔
      s.port = 0 ∨ ∃ t, s.pattern = some t ∧ Pattern.compiles t = false := by
  have hbroken : s.violations ≠ [] ↔
      s.port = 0 ∨ ∃ t, s.pattern = some t ∧ Pattern.compiles t = false := by
    rw [Ne, violations_eq_nil_iff, Decidable.not_and_iff_not_or_not, Decidable.not_not]
    simp only [Classical.not_forall, exists_prop, Bool.not_eq_true]
  rw [← hbroken]
  constructor
  · rintro ⟨e, he⟩ hv
    obtain ⟨host, database, user, password, query, hh, hd, hu, hp, hq⟩ :=
      absentNames_eq_nil_iff.mp h
    have hok := plan_eq_ok_iff.mpr
      ⟨hv, host, database, user, password, query, hh, hd, hu, hp, hq, rfl⟩
    rw [he] at hok
    cases hok
  · exact fun hv => ⟨_, plan_of_broken h hv⟩

/-- **Validation guards the decision.** A plan has a port from 1 to 65535, and a
pattern, if any, that is one. No reply to its query leads to the failure that the
pattern is none, and a value that leaves the status unknown does so because of a
threshold. If on the other hand all that is required is there, what is refused has
port 0 or a pattern with which every decision fails. -/
theorem validation_guards (s : Settings) :
    (∀ p, s.plan = .ok p →
      (1 ≤ p.connection.port.toNat ∧ p.connection.port.toNat ≤ 65535) ∧
      (p.comparison.pattern = none ∨
        ∃ t, p.comparison.pattern = some t ∧ Pattern.compiles t = true) ∧
      ∀ answer : Connection → String → Reply,
        ¬ (s.session.run answer).verdict.IsPatternFailure ∧
        ∀ raw, answer p.connection p.query = .ok raw →
          (p.comparison.decision (.ofText raw)).cause ≠ some .badPattern ∧
          ((s.session.run answer).verdict.severity = .unknown →
            (p.comparison.warn ≠ none ∨ p.comparison.crit ≠ none) ∧
            (s.session.run answer).verdict.message ∈
              ["Result contains non-numeric characters.", "Warn threshold syntax failure.",
                "Critical threshold syntax failure."])) ∧
    (s.absentNames = [] →
      ((∃ e, s.plan = .error e) ↔
        s.port = 0 ∨ ∃ t, s.pattern = some t ∧
          ∀ (c : Comparison) (r : Reading), c.pattern = some t →
            (c.decide r).IsPatternFailure)) := by
  constructor
  · intro p hp
    obtain ⟨hport, hpattern⟩ := valid_of_plan hp
    have hpos : p.connection.port.toNat ≠ 0 := by
      rwa [Ne, ← UInt16.toNat_zero, UInt16.toNat_inj]
    have hlt : p.connection.port.toNat < 65536 := p.connection.port.toNat_lt
    refine ⟨⟨by omega, by omega⟩, ?_, ?_⟩
    · cases ht : p.comparison.pattern with
      | none => exact .inl rfl
      | some t => exact .inr ⟨t, rfl, hpattern t ht⟩
    intro answer
    have hrun : s.session.run answer = p.report (answer p.connection p.query) := by
      rw [run_session, hp]
    rw [hrun]
    refine ⟨not_isPatternFailure_report hp _, ?_⟩
    intro raw hraw
    rw [hraw]
    have hcause : (p.comparison.decision (.ofText raw)).cause ≠ some .badPattern := by
      intro hk
      exact badPattern_not_applies_of_plan hp _ (Comparison.applies_of_cause hk)
    refine ⟨hcause, fun hu => ?_⟩
    obtain ⟨hset, hm⟩ := Comparison.unknown_of_other_cause hcause hu
    rw [Comparison.hasThreshold, Bool.or_eq_true, Option.isSome_iff_ne_none,
      Option.isSome_iff_ne_none] at hset
    exact ⟨hset, hm⟩
  · intro h
    rw [plan_eq_error_iff h]
    simp only [Comparison.not_compiles_iff]

end Settings

end SqlProbe
