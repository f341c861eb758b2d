import SqlProbe.Proofs.Decision.Stages

/-!
# A comparison and its parts

Up to four things are compared, and any of them may be left out. Here the
severity of a decision is tied to those of its *parts*, the comparisons that keep
one of the four and leave the others out: it is the highest of them, and so a
comparison that is added can only raise it (`Comparison.severity_of_parts`).

The parts are run on their own, so that nothing is skipped between them, while
the whole may skip. That makes no difference by `Stage.severity_run`, which says
that the severity of a run is the highest of its findings. What remains is to
split the findings among the four (`Comparison.severity_decide`). Only the demand
for a number takes thought: it is one stage, and it is counted with both
thresholds.
-/

namespace SqlProbe

variable {r : Reading}

/-! ### The four severities -/

namespace Reading

/-- The severity of a reading against an expected text, and nothing else. -/
def againstText (r : Reading) (expected : Option String) : Severity :=
  (Decision.start.compareText r.raw expected).severity

/-- The severity of a reading against a pattern, and nothing else. -/
def againstPattern (r : Reading) (pattern : Option String) : Severity :=
  (Decision.start.comparePattern r.raw pattern).severity

/-- The severity of a reading against a threshold, and nothing else. Without a
number it cannot be judged, if there is a threshold at all. -/
def againstThreshold (r : Reading) (level : Level) (threshold : Option String) : Severity :=
  match r.number with
  | some v => (Decision.start.compareThreshold level v threshold).severity
  | none => if threshold.isSome then .unknown else .ok

@[simp] theorem againstText_none : r.againstText none = .ok := rfl

@[simp] theorem againstPattern_none : r.againstPattern none = .ok := rfl

@[simp] theorem againstThreshold_none (level : Level) : r.againstThreshold level none = .ok := by
  rw [againstThreshold]
  cases r.number <;> rfl

end Reading

namespace Comparison

/-- The findings of the numeric stages are those of the two thresholds. The
demand for a number is made once, and fails for either of them. -/
theorem severity_numeric (c : Comparison) (r : Reading) :
    ((Stage.finding c r .number).severity.escalate
        (Stage.finding c r (.threshold .warning)).severity).escalate
        (Stage.finding c r (.threshold .critical)).severity =
      (r.againstThreshold .warning c.warn).escalate (r.againstThreshold .critical c.crit) := by
  simp only [Stage.finding, Stage.apply, Decision.start_andThen, Reading.againstThreshold,
    threshold]
  cases r.number with
  | some v =>
    rw [Option.isNone_some, Bool.and_false, if_neg Bool.false_ne_true]
    exact congrArg (Severity.escalate · _) (Severity.ok_escalate _)
  | none => cases hw : c.warn <;> cases hc : c.crit <;> simp [hasThreshold, hw, hc] <;> rfl

/-- **The severity of a decision** is the highest of the four. -/
theorem severity_decide (c : Comparison) (r : Reading) :
    (c.decide r).severity =
      ((r.againstText c.expected).escalate (r.againstPattern c.pattern)).escalate
        ((r.againstThreshold .warning c.warn).escalate (r.againstThreshold .critical c.crit)) := by
  change (c.decision r).severity = _
  rw [← severity_numeric, decision_eq_run, Stage.severity_run]
  simp only [Stage.all, List.map_cons, List.map_nil, List.foldl_cons, List.foldl_nil,
    Severity.escalate_assoc]
  exact Severity.ok_escalate _

/-! ### Parts -/

/-- The comparison that leaves everything out. -/
def empty : Comparison := ⟨none, none, none, none⟩

/-- The comparisons that keep one of the four and leave the others out. -/
def parts (c : Comparison) : List Comparison :=
  [{ empty with expected := c.expected }, { empty with pattern := c.pattern },
    { empty with warn := c.warn }, { empty with crit := c.crit }]

/-- Whatever `c` compares with, `c'` compares with as well. -/
structure Extends (c' c : Comparison) : Prop where
  expected : ∀ t, c.expected = some t → c'.expected = some t
  pattern : ∀ t, c.pattern = some t → c'.pattern = some t
  warn : ∀ t, c.warn = some t → c'.warn = some t
  crit : ∀ t, c.crit = some t → c'.crit = some t

/-- A severity that is `ok` where nothing is configured does not fall when
something is. -/
theorem le_of_configured {f : Option String → Severity} (hf : f none = .ok)
    {a b : Option String} (h : ∀ t, a = some t → b = some t) : f a ≤ f b := by
  cases a with
  | none =>
    rw [hf]
    exact Severity.ok_le _
  | some t =>
    rw [h t rfl]
    exact Severity.le_refl _

/-- **Severity is made of parts.** It is the highest of the severities of the
parts, and it does not fall when a comparison is extended. -/
theorem severity_of_parts (r : Reading) :
    (∀ c : Comparison, (c.decide r).severity =
      (c.parts.map fun p => (p.decide r).severity).foldl max .ok) ∧
    ∀ c c' : Comparison, c'.Extends c → (c.decide r).severity ≤ (c'.decide r).severity := by
  constructor
  · intro c
    change _ = (c.parts.map fun p => (p.decide r).severity).foldl Severity.escalate .ok
    simp only [parts, List.map_cons, List.map_nil, List.foldl_cons, List.foldl_nil,
      severity_decide, empty, Reading.againstText_none, Reading.againstPattern_none,
      Reading.againstThreshold_none, Severity.escalate_ok, Severity.ok_escalate,
      Severity.escalate_assoc]
  · intro c c' h
    rw [severity_decide, severity_decide]
    have text := le_of_configured (f := r.againstText) r.againstText_none h.expected
    have pattern := le_of_configured (f := r.againstPattern) r.againstPattern_none h.pattern
    have warn := le_of_configured (r.againstThreshold_none .warning) h.warn
    have crit := le_of_configured (r.againstThreshold_none .critical) h.crit
    exact Severity.escalate_le_escalate (Severity.escalate_le_escalate text pattern)
      (Severity.escalate_le_escalate warn crit)

end Comparison

end SqlProbe
