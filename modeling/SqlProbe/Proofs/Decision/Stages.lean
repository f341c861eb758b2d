import SqlProbe.Decision

/-!
# A decision as a run of stages

A decision is made in five stages: the expected text, the pattern, the demand
for a number, and the two thresholds. Two pieces of state are written on the
way, the severity and the cause of an unknown status, and the last three stages
are skipped once the severity is unknown.

The argument rests on one observation. A stage does not look at what was found
before, skipping apart: it adds its own *finding*, which is what it makes of the
fresh decision (`Stage.apply_cases`). What a run of stages comes to is then read
off the findings alone:

* `Stage.severity_run`: the severity is the highest of all findings, for a
  skipped finding could not have raised an unknown severity.
* `Decision.Settled`: a cause is recorded exactly if the severity is unknown.
  Every stage keeps this (`Decision.Settled.apply`), hence every run does
  (`Decision.Settled.run`).
* `Stage.cause_run`: the cause is that of the first finding with a cause.

`Comparison.message_of_first_cause` puts them together: the status is unknown exactly
if one of four causes applies, the message is then the text of the first of
them, and otherwise it is the reading itself.
-/

namespace SqlProbe

variable {c : Comparison} {r : Reading}

/-! ### Joining decisions -/

namespace Decision

/-- A decision in progress with the findings of another one added to it. -/
def join (d f : Decision) : Decision where
  severity := d.severity.escalate f.severity
  cause := d.cause.or f.cause
  notes := d.notes ++ f.notes

@[simp] theorem join_start (d : Decision) : d.join start = d := by
  simp [join, start]

@[simp] theorem cause_start : start.cause = none := rfl

@[simp] theorem severity_join (d f : Decision) :
    (d.join f).severity = d.severity.escalate f.severity := rfl

@[simp] theorem cause_join (d f : Decision) : (d.join f).cause = d.cause.or f.cause := rfl

theorem andThen_of_unknown {d : Decision} (h : d.severity = .unknown)
    (next : Decision → Decision) : d.andThen next = d := if_pos h

theorem andThen_of_ne_unknown {d : Decision} (h : d.severity ≠ .unknown)
    (next : Decision → Decision) : d.andThen next = next d := if_neg h

@[simp] theorem start_andThen (next : Decision → Decision) : start.andThen next = next start := rfl

@[simp] theorem andThen_id (d : Decision) : (d.andThen fun d => d) = d := ite_self d

theorem compareThreshold_none (level : Level) (v : Binary64) (d : Decision) :
    compareThreshold level v none d = d := rfl

theorem compareText_eq_join (raw : String) (expected : Option String) (d : Decision) :
    compareText raw expected d = d.join (compareText raw expected start) := by
  cases expected with
  | none => exact (join_start d).symm
  | some text =>
    by_cases h : raw = text
    · simp [compareText, h]
    · simp [compareText, h, join, raise, start]

theorem comparePattern_eq_join (raw : String) (pattern : Option String) (d : Decision) :
    comparePattern raw pattern d = d.join (comparePattern raw pattern start) := by
  cases pattern with
  | none => exact (join_start d).symm
  | some text =>
    cases hc : Pattern.compile text with
    | error e => cases hd : d.cause <;> simp [comparePattern, hc, join, fail, start, hd]
    | ok p =>
      by_cases hm : p.isMatch raw = true
      · simp [comparePattern, hc, hm]
      · simp [comparePattern, hc, hm, join, raise, start]

theorem compareThreshold_eq_join (level : Level) (v : Binary64) (threshold : Option String)
    (d : Decision) :
    compareThreshold level v threshold d = d.join (compareThreshold level v threshold start) := by
  cases threshold with
  | none => exact (join_start d).symm
  | some raw =>
    cases hp : Threshold.parse raw with
    | error e =>
      cases hd : d.cause <;> simp [compareThreshold, hp, join, fail, note, start, hd]
    | ok t =>
      cases he : t.evaluate v with
      | within => simp [compareThreshold, hp, he, join, note, start]
      | violated => simp [compareThreshold, hp, he, join, note, raise, start]

end Decision

/-! ### The stages -/

/-- One step of a decision. -/
inductive Stage where
  /-- The comparison with the expected text. -/
  | text
  /-- The comparison with the pattern. -/
  | pattern
  /-- The demand for a number, if a threshold is configured. -/
  | number
  /-- The comparison with a threshold. -/
  | threshold (level : Level)
deriving DecidableEq, Repr

namespace Comparison

/-- The threshold configured for a level. -/
def threshold (c : Comparison) : Level → Option String
  | .warning => c.warn
  | .critical => c.crit

/-- Whether any threshold is configured. -/
def hasThreshold (c : Comparison) : Bool := c.warn.isSome || c.crit.isSome

end Comparison

namespace Stage

/-- Every stage, in the order in which they are made. -/
def all : List Stage :=
  [text, pattern, number, threshold .warning, threshold .critical]

/-- What a stage makes of a decision in progress. -/
def apply (c : Comparison) (r : Reading) : Stage → Decision → Decision
  | text, d => d.compareText r.raw c.expected
  | pattern, d => d.comparePattern r.raw c.pattern
  | number, d => d.andThen fun d =>
      if c.hasThreshold && r.number.isNone then d.fail .notNumeric else d
  | threshold level, d => d.andThen fun d =>
      match r.number with
      | some v => d.compareThreshold level v (c.threshold level)
      | none => d

/-- What a stage finds by itself: what it makes of the fresh decision. -/
def finding (c : Comparison) (r : Reading) (s : Stage) : Decision := s.apply c r .start

/-- What some stages, one after the other, make of a decision in progress. -/
def run (c : Comparison) (r : Reading) (stages : List Stage) (d : Decision) : Decision :=
  stages.foldl (fun d s => s.apply c r d) d

@[simp] theorem run_nil (d : Decision) : run c r [] d = d := rfl

@[simp] theorem run_cons (s : Stage) (stages : List Stage) (d : Decision) :
    run c r (s :: stages) d = run c r stages (s.apply c r d) := rfl

/-- **One stage.** It either adds its finding, or it is skipped, and then the
severity is unknown already. -/
theorem apply_cases (s : Stage) (d : Decision) :
    s.apply c r d = d.join (s.finding c r) ∨
      d.severity = .unknown ∧ s.apply c r d = d := by
  cases s with
  | text => exact .inl (Decision.compareText_eq_join ..)
  | pattern => exact .inl (Decision.comparePattern_eq_join ..)
  | number =>
    by_cases h : d.severity = .unknown
    · exact .inr ⟨h, by rw [apply, Decision.andThen_of_unknown h]⟩
    · left
      rw [finding, apply, apply, Decision.andThen_of_ne_unknown h, Decision.start_andThen]
      split
      · cases hd : d.cause <;> simp [Decision.fail, Decision.join, Decision.start, hd]
      · exact (Decision.join_start d).symm
  | threshold level =>
    by_cases h : d.severity = .unknown
    · exact .inr ⟨h, by rw [apply, Decision.andThen_of_unknown h]⟩
    · left
      rw [finding, apply, apply, Decision.andThen_of_ne_unknown h, Decision.start_andThen]
      split
      · exact Decision.compareThreshold_eq_join ..
      · exact (Decision.join_start d).symm

/-- Skipped or not, a stage raises the severity to that of its finding. -/
theorem severity_apply (s : Stage) (d : Decision) :
    (s.apply c r d).severity = d.severity.escalate (s.finding c r).severity := by
  obtain h | ⟨hu, h⟩ := apply_cases (c := c) (r := r) s d
  · rw [h, Decision.severity_join]
  · rw [h, hu, Severity.unknown_escalate]

/-- **The severity of a run** is the highest of its findings. -/
theorem severity_run (stages : List Stage) (d : Decision) :
    (run c r stages d).severity =
      (stages.map fun s => (s.finding c r).severity).foldl Severity.escalate d.severity := by
  induction stages generalizing d with
  | nil => rfl
  | cons s stages ih => rw [run_cons, ih, severity_apply, List.map_cons, List.foldl_cons]

end Stage

/-- A decision is the run of all stages from the start. -/
theorem Comparison.decision_eq_run (c : Comparison) (r : Reading) :
    c.decision r = Stage.run c r Stage.all .start := by
  rw [Comparison.decision, Stage.all]
  simp only [Stage.run_cons, Stage.run_nil, Stage.apply, Comparison.threshold]
  generalize (Decision.start.compareText r.raw c.expected).comparePattern r.raw c.pattern = d
  by_cases hu : d.severity = .unknown
  · simp only [Decision.andThen_of_unknown hu]
  · simp only [Decision.andThen_of_ne_unknown hu, Decision.compareNumber.eq_def]
    cases r.number with
    | some v =>
      -- The demand for a number is met, and absent thresholds compare nothing.
      simp only [Option.isNone_some, Bool.and_false, Bool.false_eq_true, if_false,
        Decision.andThen_of_ne_unknown hu]
      split
      · next h =>
        rw [Bool.and_eq_true, Option.isNone_iff_eq_none, Option.isNone_iff_eq_none] at h
        rw [h.1, h.2, Decision.compareThreshold_none, Decision.andThen_of_ne_unknown hu,
          Decision.compareThreshold_none]
      · rfl
    | none =>
      -- The demand fails exactly if a threshold is there, and no threshold is compared.
      cases hw : c.warn <;> cases hc : c.crit <;>
        simp [Comparison.hasThreshold, hw, hc]

/-! ### Cause and severity agree -/

namespace Decision

/-- A decision in progress is *settled* if a cause is recorded exactly when the
severity is unknown. -/
def Settled (d : Decision) : Prop := d.cause.isSome ↔ d.severity = .unknown

namespace Settled

theorem start : Settled start := by simp [Settled, Decision.start]

theorem join {d f : Decision} (hd : d.Settled) (hf : f.Settled) : (d.join f).Settled := by
  unfold Settled at hd hf ⊢
  rw [severity_join, cause_join, Severity.escalate_eq_unknown_iff, ← hd, ← hf]
  cases d.cause <;> simp

theorem fail (d : Decision) (k : Cause) : (d.fail k).Settled := by
  simp [Settled, Decision.fail]

theorem compareText (raw : String) (expected : Option String) :
    (Decision.start.compareText raw expected).Settled := by
  cases expected with
  | none => exact start
  | some text => by_cases h : raw = text <;>
      simp [Settled, Decision.compareText, Decision.raise, Decision.start, h]

theorem comparePattern (raw : String) (pattern : Option String) :
    (Decision.start.comparePattern raw pattern).Settled := by
  cases pattern with
  | none => exact start
  | some text =>
    rw [Decision.comparePattern]
    split
    · split <;> simp [Settled, Decision.raise, Decision.start]
    · exact fail _ _

theorem compareThreshold (level : Level) (v : Binary64) (threshold : Option String) :
    (Decision.start.compareThreshold level v threshold).Settled := by
  cases threshold with
  | none => exact start
  | some raw =>
    rw [Decision.compareThreshold]
    split
    · cases level <;> split <;>
        simp [Settled, Decision.raise, Decision.note, Decision.start, Level.severity]
    · exact fail _ _

theorem finding (s : Stage) : (s.finding c r).Settled := by
  cases s with
  | text => exact compareText _ _
  | pattern => exact comparePattern _ _
  | number =>
    rw [Stage.finding, Stage.apply, start_andThen]
    split
    · exact fail _ _
    · exact start
  | threshold level =>
    rw [Stage.finding, Stage.apply, start_andThen]
    split
    · exact compareThreshold _ _ _
    · exact start

/-- Every stage keeps cause and severity in agreement. -/
theorem apply {d : Decision} (h : d.Settled) (s : Stage) : (s.apply c r d).Settled := by
  obtain he | ⟨-, he⟩ := Stage.apply_cases (c := c) (r := r) s d
  · rw [he]
    exact h.join (finding s)
  · rwa [he]

/-- Hence so does every run of stages. -/
theorem run {d : Decision} (h : d.Settled) (stages : List Stage) :
    (Stage.run c r stages d).Settled := by
  induction stages generalizing d with
  | nil => exact h
  | cons s stages ih => exact ih (h.apply s)

end Settled

end Decision

/-! ### The first cause -/

namespace Stage

/-- A stage records its cause unless one is recorded. It is here that skipping
and recording have to agree: what is skipped leaves no cause. -/
theorem cause_apply {d : Decision} (h : d.Settled) (s : Stage) :
    (s.apply c r d).cause = d.cause.or (s.finding c r).cause := by
  obtain he | ⟨hu, he⟩ := apply_cases (c := c) (r := r) s d
  · rw [he, Decision.cause_join]
  · obtain ⟨k, hk⟩ := Option.isSome_iff_exists.mp (h.mpr hu)
    rw [he, hk, Option.some_or]

/-- **The cause of a run** is that of the first finding with a cause. -/
theorem cause_run {d : Decision} (h : d.Settled) (stages : List Stage) :
    (run c r stages d).cause =
      d.cause.or (stages.findSome? fun s => (s.finding c r).cause) := by
  induction stages generalizing d with
  | nil => simp
  | cons s stages ih =>
    rw [run_cons, ih (h.apply s), cause_apply h, Option.or_assoc, List.findSome?_cons]
    cases (s.finding c r).cause <;> rfl

end Stage

namespace Cause

/-- The causes of an unknown status, in the order of precedence. -/
def all : List Cause :=
  [badPattern, notNumeric, badThreshold .warning, badThreshold .critical]

/-- Whether a cause applies, whatever else does: the pattern is none, a
threshold is configured and the reading is no number, or a threshold is none. -/
def applies (c : Comparison) (r : Reading) : Cause → Bool
  | badPattern => c.pattern.any fun p => !Pattern.compiles p
  | notNumeric => c.hasThreshold && r.number.isNone
  | badThreshold level => (c.threshold level).any fun t => !(Threshold.parse t).isOk

end Cause

namespace Stage

theorem cause_finding_text : (finding c r text).cause = none := by
  rw [finding, apply]
  cases c.expected with
  | none => rfl
  | some text =>
    rw [Decision.compareText]
    split <;> rfl

theorem cause_finding_pattern :
    (finding c r pattern).cause =
      if Cause.badPattern.applies c r then some .badPattern else none := by
  rw [finding, apply, Cause.applies]
  cases c.pattern with
  | none => rfl
  | some p =>
    cases hc : Pattern.compile p with
    | error e => simp [Decision.comparePattern, Pattern.compiles, hc, Except.isOk, Except.toBool,
        Decision.fail, Decision.start]
    | ok m => cases hm : m.isMatch r.raw <;>
        simp [Decision.comparePattern, Pattern.compiles, hc, hm, Except.isOk, Except.toBool,
          Decision.raise, Decision.start]

theorem cause_finding_number :
    (finding c r number).cause =
      if Cause.notNumeric.applies c r then some .notNumeric else none := by
  rw [finding, apply, Decision.start_andThen, Cause.applies]
  split <;> rfl

/-- The two thresholds are looked at only if there is a number. -/
theorem cause_finding_threshold {v : Binary64} (hv : r.number = some v) (level : Level) :
    (finding c r (threshold level)).cause =
      if (Cause.badThreshold level).applies c r then some (.badThreshold level) else none := by
  rw [finding, apply, Decision.start_andThen, hv, Cause.applies]
  cases c.threshold level with
  | none => rfl
  | some t =>
    cases hp : Threshold.parse t with
    | error e => simp [Decision.compareThreshold, hp, Except.isOk, Except.toBool, Decision.fail,
        Decision.note, Decision.start]
    | ok t => cases he : t.evaluate v <;>
        simp [Decision.compareThreshold, hp, he, Except.isOk, Except.toBool, Decision.raise,
          Decision.note, Decision.start]

end Stage

namespace Comparison

/-- The cause of a decision is the first one that applies. -/
theorem cause_decision (c : Comparison) (r : Reading) :
    (c.decision r).cause = Cause.all.find? (Cause.applies c r) := by
  rw [decision_eq_run, Stage.cause_run Decision.Settled.start]
  simp only [Stage.all, List.findSome?_cons, Stage.cause_finding_text, Stage.cause_finding_pattern,
    Stage.cause_finding_number, Cause.all, List.find?_cons]
  cases hp : Cause.badPattern.applies c r
  case true => rfl
  cases hn : r.number with
  | some v =>
    simp only [Stage.cause_finding_threshold hn]
    cases Cause.notNumeric.applies c r <;> cases (Cause.badThreshold .warning).applies c r <;>
      cases (Cause.badThreshold .critical).applies c r <;> rfl
  | none =>
    -- Without a number the thresholds are not read: either none is configured,
    -- or the number is missing first.
    cases hw : c.warn <;> cases hc : c.crit <;>
      simp [Cause.applies, hasThreshold, threshold, hw, hc, hn, Stage.finding, Stage.apply]

theorem settled_decision (c : Comparison) (r : Reading) : (c.decision r).Settled := by
  rw [decision_eq_run]
  exact Decision.Settled.start.run Stage.all

/-- The status is unknown exactly if there is a cause. -/
theorem unknown_iff_cause :
    (c.decide r).severity = .unknown ↔ ∃ k, (c.decision r).cause = some k := by
  rw [← Option.isSome_iff_exists]
  exact (settled_decision c r).symm

theorem message_of_cause {k : Cause} (h : (c.decision r).cause = some k) :
    (c.decide r).message = k.message := by
  show ((c.decision r).cause.map Cause.message).getD r.raw = k.message
  rw [h, Option.map_some, Option.getD_some]

theorem message_of_ne_unknown (h : (c.decide r).severity ≠ .unknown) :
    (c.decide r).message = r.raw := by
  have hnone : (c.decision r).cause = none := by
    rw [Option.eq_none_iff_forall_ne_some]
    exact fun k hk => h (unknown_iff_cause.mpr ⟨k, hk⟩)
  show ((c.decision r).cause.map Cause.message).getD r.raw = r.raw
  rw [hnone, Option.map_none, Option.getD_none]

theorem applies_of_cause {k : Cause} (h : (c.decision r).cause = some k) :
    k.applies c r = true := by
  rw [cause_decision] at h
  exact List.find?_some h

/-- **Message and status agree.** The status is unknown exactly if a cause
applies, the message is then the fixed text of the first one, and in any other case
it is the reading as it was returned. The two pieces of state behind this agree after
every stage of the run that makes the decision. -/
theorem message_of_first_cause (c : Comparison) (r : Reading) :
    ((c.decide r).severity = .unknown ↔ ∃ k ∈ Cause.all, k.applies c r = true) ∧
    (Cause.all.find? (Cause.applies c r) = some .badPattern →
      (c.decide r).message = "Regex syntax failure.") ∧
    (Cause.all.find? (Cause.applies c r) = some .notNumeric →
      (c.decide r).message = "Result contains non-numeric characters.") ∧
    (Cause.all.find? (Cause.applies c r) = some (.badThreshold .warning) →
      (c.decide r).message = "Warn threshold syntax failure.") ∧
    (Cause.all.find? (Cause.applies c r) = some (.badThreshold .critical) →
      (c.decide r).message = "Critical threshold syntax failure.") ∧
    ((c.decide r).severity ≠ .unknown → (c.decide r).message = r.raw) ∧
    c.decision r = Stage.run c r Stage.all .start ∧
    ∀ stages, stages <+: Stage.all → (Stage.run c r stages .start).Settled := by
  have hunknown : (c.decide r).severity = .unknown ↔ ∃ k ∈ Cause.all, k.applies c r = true := by
    rw [unknown_iff_cause, cause_decision, ← Option.isSome_iff_exists, List.find?_isSome]
  have hmessage : ∀ k, Cause.all.find? (Cause.applies c r) = some k →
      (c.decide r).message = k.message := by
    intro k hk
    exact message_of_cause (c.cause_decision r ▸ hk)
  refine ⟨hunknown, hmessage .badPattern, hmessage .notNumeric, hmessage (.badThreshold .warning),
    hmessage (.badThreshold .critical), message_of_ne_unknown, decision_eq_run c r, ?_⟩
  intro stages _
  exact Decision.Settled.start.run stages

end Comparison

end SqlProbe
