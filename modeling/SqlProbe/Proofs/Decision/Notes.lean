import Mathlib.Data.List.Basic
import SqlProbe.Proofs.Decision.Stages
import SqlProbe.Session

/-!
# The notes of a decision

For an operator a verdict is explained by notes: one on the value that was returned, and
one on each threshold that the value was compared with. Here it is shown which notes there
are, in which order, and that they and the severity tell the same story
(`Plan.notes_complete`).

The notes of a run are those of its findings, in order, up to and including the first
finding with a cause (`Stage.heard`). To see that it is so (`Stage.notes_run`) one has to
look at skipping again: the stages that are never skipped have nothing to note, and so the
notes of a decision that has a cause do not change any more.

What a note says is known from its text alone, because no two notes have the same words,
whatever threshold they quote (`Note.text_injective`). And a note tells all that its stage
has found (`Note.found`), from which the severity can be read off the notes and the two
comparisons that have none (`Comparison.severity_eq_max`).
-/

namespace SqlProbe

variable {c : Comparison} {r : Reading} {d : Decision} {level : Level} {v : Binary64}

/-! ### What is noted about a threshold -/

namespace Note

/-- **The note on a threshold** that is set, at a value. -/
inductive On (level : Level) (v : Binary64) (text : String) : Note → Prop
  | exceeded {t : Threshold} (ht : Threshold.parse text = .ok t)
      (hv : t.evaluate v = .violated) : On level v text (.exceeded level)
  | notExceeded {t : Threshold} (ht : Threshold.parse text = .ok t)
      (hv : t.evaluate v = .within) : On level v text (.notExceeded level)
  | strange {e : ThresholdError} (he : Threshold.parse text = .error e) :
      On level v text (.strange level text)

/-- The finding that is behind a note. -/
def found (n : Note) : Decision where
  severity := match n with
    | exceeded level => level.severity
    | notExceeded _ => .ok
    | strange _ _ => .unknown
  cause := match n with
    | strange level _ => some (.badThreshold level)
    | _ => none
  notes := [n]

namespace On

variable {n : Note} {text : String}

theorem eq_exceeded_iff (h : n.On level v text) :
    n = .exceeded level ↔ ∃ t, Threshold.parse text = .ok t ∧ t.evaluate v = .violated := by
  cases h with
  | exceeded ht hv => simp [ht, hv]
  | notExceeded ht hv => simp [ht, hv]
  | strange he => simp [he]

theorem eq_notExceeded_iff (h : n.On level v text) :
    n = .notExceeded level ↔ ∃ t, Threshold.parse text = .ok t ∧ t.evaluate v = .within := by
  cases h with
  | exceeded ht hv => simp [ht, hv]
  | notExceeded ht hv => simp [ht, hv]
  | strange he => simp [he]

theorem eq_strange_iff (h : n.On level v text) :
    n = .strange level text ↔ ∃ e, Threshold.parse text = .error e := by
  cases h with
  | exceeded ht hv => simp [ht]
  | notExceeded ht hv => simp [ht]
  | strange he => simp [he]

end On

/-! ### The words of a note -/

/-- What stands after a threshold that is quoted. -/
def closing (level : Level) : String := "\" is a strange and confusing " ++ level.name ++ " value."

theorem toList_text_strange (level : Level) (raw : String) :
    (strange level raw).text.toList = '"' :: (raw.toList ++ (closing level).toList) := by
  have hopening : "\"".toList = ['"'] := by decide +kernel
  have htext : (strange level raw).text = "\"" ++ (raw ++ closing level) := by
    unfold closing
    simp only [text, String.append_assoc]
  rw [htext, String.toList_append, String.toList_append, hopening, List.singleton_append]

/-- A quotation mark in front tells the notes that quote from the others. -/
theorem head?_text_eq_iff {n : Note} :
    n.text.toList.head? = some '"' ↔ ∃ level raw, n = strange level raw := by
  cases n with
  | exceeded level =>
    refine iff_of_false ?_ (by simp)
    cases level <;> decide +kernel
  | notExceeded level =>
    refine iff_of_false ?_ (by simp)
    cases level <;> decide +kernel
  | strange level raw =>
    rw [toList_text_strange, List.head?_cons]
    exact iff_of_true rfl ⟨level, raw, rfl⟩

/-- Two notes that quote have the same words only if they quote the same, at the same level.
Otherwise the one text would have both ends, the one of them being the end of the other. -/
theorem strange_eq_of_text_eq {level' : Level} {raw raw' : String}
    (h : (strange level raw).text = (strange level' raw').text) :
    strange level raw = strange level' raw' := by
  have hlist := congrArg String.toList h
  rw [toList_text_strange, toList_text_strange, List.cons.injEq] at hlist
  have hclosing := List.suffix_or_suffix_of_suffix
    (List.suffix_append raw.toList (closing level).toList)
    (hlist.2 ▸ List.suffix_append raw'.toList (closing level').toList)
  have hlevel : level = level' := by
    revert hclosing
    cases level <;> cases level' <;> decide +kernel
  subst hlevel
  rw [String.toList_inj.mp (List.append_cancel_right hlist.2)]

/-- **No two notes have the same words**, whatever they quote. -/
theorem text_injective : Function.Injective text := by
  intro m n h
  have hhead : (∃ level raw, m = strange level raw) ↔ ∃ level raw, n = strange level raw := by
    rw [← head?_text_eq_iff, ← head?_text_eq_iff, h]
  by_cases hm : ∃ level raw, m = strange level raw
  · obtain ⟨level, raw, rfl⟩ := hm
    obtain ⟨level', raw', rfl⟩ := hhead.mp ⟨level, raw, rfl⟩
    exact strange_eq_of_text_eq h
  · have hn := mt hhead.mpr hm
    cases m with
    | strange level raw => exact absurd ⟨level, raw, rfl⟩ hm
    | exceeded level =>
      cases n with
      | strange level' raw => exact absurd ⟨level', raw, rfl⟩ hn
      | exceeded level' => revert h; cases level <;> cases level' <;> decide +kernel
      | notExceeded level' => revert h; cases level <;> cases level' <;> decide +kernel
    | notExceeded level =>
      cases n with
      | strange level' raw => exact absurd ⟨level', raw, rfl⟩ hn
      | exceeded level' => revert h; cases level <;> cases level' <;> decide +kernel
      | notExceeded level' => revert h; cases level <;> cases level' <;> decide +kernel

end Note

/-- **What a line says** about a threshold: that the value violates it, that it does not,
or that the text is none. It says each of them exactly if it is so. -/
structure LineOn (level : Level) (v : Binary64) (text line : String) : Prop where
  exceeded : line = level.name ++ " threshold exceeded." ↔
    ∃ t, Threshold.parse text = .ok t ∧ t.evaluate v = .violated
  notExceeded : line = level.name ++ " threshold not exceeded." ↔
    ∃ t, Threshold.parse text = .ok t ∧ t.evaluate v = .within
  strange : line = "\"" ++ text ++ "\" is a strange and confusing " ++ level.name ++ " value." ↔
    ∃ e, Threshold.parse text = .error e

theorem Note.On.lineOn {n : Note} {text : String} (h : n.On level v text) :
    LineOn level v text n.text where
  exceeded := (text_injective.eq_iff (b := .exceeded level)).trans h.eq_exceeded_iff
  notExceeded := (text_injective.eq_iff (b := .notExceeded level)).trans h.eq_notExceeded_iff
  strange := (text_injective.eq_iff (b := .strange level text)).trans h.eq_strange_iff

/-! ### The notes of a run -/

namespace Stage

theorem notes_finding_text : (finding c r text).notes = [] := by
  rw [finding, apply]
  cases c.expected with
  | none => rfl
  | some text =>
    rw [Decision.compareText]
    split <;> rfl

theorem notes_finding_pattern : (finding c r pattern).notes = [] := by
  rw [finding, apply]
  cases c.pattern with
  | none => rfl
  | some text =>
    rw [Decision.comparePattern]
    split
    · split <;> rfl
    · rfl

theorem notes_finding_number : (finding c r number).notes = [] := by
  rw [finding, apply, Decision.start_andThen]
  split <;> rfl

/-- A threshold that is set is noted once, and its finding is the one behind the note. -/
theorem exists_finding_threshold {text : String} (hv : r.number = some v)
    (ht : c.threshold level = some text) :
    ∃ n : Note, n.On level v text ∧ finding c r (threshold level) = n.found := by
  rw [finding, apply, Decision.start_andThen, hv, ht]
  dsimp only
  rw [Decision.compareThreshold]
  cases hp : Threshold.parse text with
  | error e => exact ⟨_, .strange hp, rfl⟩
  | ok t =>
    dsimp only
    cases he : t.evaluate v with
    | violated =>
      refine ⟨_, .exceeded hp he, ?_⟩
      cases level <;> rfl
    | within => exact ⟨_, .notExceeded hp he, rfl⟩

theorem finding_threshold_of_none (ht : c.threshold level = none) :
    finding c r (threshold level) = .start := by
  rw [finding, apply, Decision.start_andThen, ht]
  cases r.number <;> rfl

theorem finding_threshold_of_not_numeric (hv : r.number = none) :
    finding c r (threshold level) = .start := by
  rw [finding, apply, Decision.start_andThen, hv]

/-- A threshold finds nothing, or it finds what a note tells. -/
theorem finding_threshold_cases (c : Comparison) (r : Reading) (level : Level) :
    finding c r (threshold level) = .start ∨
      ∃ (v : Binary64) (text : String) (n : Note),
        n.On level v text ∧ finding c r (threshold level) = n.found := by
  cases ht : c.threshold level with
  | none => exact .inl (finding_threshold_of_none ht)
  | some text =>
    cases hv : r.number with
    | none => exact .inl (finding_threshold_of_not_numeric hv)
    | some v => exact .inr ⟨v, text, exists_finding_threshold hv ht⟩

/-- Once the severity is unknown nothing more is noted: a stage is skipped then, or has
nothing to note. -/
theorem notes_apply_of_unknown (h : d.severity = .unknown) (s : Stage) :
    (s.apply c r d).notes = d.notes := by
  cases s with
  | text =>
    have hnotes : (Decision.start.compareText r.raw c.expected).notes = [] := notes_finding_text
    rw [apply, Decision.compareText_eq_join, Decision.join, hnotes, List.append_nil]
  | pattern =>
    have hnotes : (Decision.start.comparePattern r.raw c.pattern).notes = [] :=
      notes_finding_pattern
    rw [apply, Decision.comparePattern_eq_join, Decision.join, hnotes, List.append_nil]
  | number => rw [apply, Decision.andThen_of_unknown h]
  | threshold level => rw [apply, Decision.andThen_of_unknown h]

/-- **One stage** adds the notes of its finding, unless there is a cause. -/
theorem notes_apply (h : d.Settled) (s : Stage) :
    (s.apply c r d).notes =
      d.notes ++ if d.cause.isSome then [] else (s.finding c r).notes := by
  by_cases hu : d.severity = .unknown
  · rw [notes_apply_of_unknown hu, if_pos (h.mpr hu), List.append_nil]
  · obtain he | ⟨hu', -⟩ := apply_cases (c := c) (r := r) s d
    · rw [he, if_neg (mt h.mp hu)]
      rfl
    · exact absurd hu' hu

theorem mem_all (s : Stage) : s ∈ all := by
  cases s with
  | threshold level => cases level <;> decide
  | text | pattern | number => decide

/-- What is noted by some stages, one after the other, before anything is found. The first
stage with a cause is the last one to be heard. -/
def heard (c : Comparison) (r : Reading) : List Stage → List Note
  | [] => []
  | s :: stages =>
    (s.finding c r).notes ++ if (s.finding c r).cause.isSome then [] else heard c r stages

/-- **The notes of a run.** -/
theorem notes_run (h : d.Settled) (stages : List Stage) :
    (run c r stages d).notes = d.notes ++ if d.cause.isSome then [] else heard c r stages := by
  -- By induction on the stages. Cause and severity agree all the time, so that a stage is
  -- skipped exactly where it is not heard.
  induction stages generalizing d with
  | nil => simp [heard]
  | cons s stages ih =>
    rw [run_cons, ih (h.apply s), notes_apply h, cause_apply h, heard, List.append_assoc]
    cases d.cause with
    | some k => simp
    | none => cases (s.finding c r).cause <;> simp

/-- If there is no cause, all stages are heard. -/
theorem heard_eq_flatMap (h : ∀ s, (finding c r s).cause = none) (stages : List Stage) :
    heard c r stages = stages.flatMap fun s => (s.finding c r).notes := by
  induction stages with
  | nil => rfl
  | cons s stages ih =>
    rw [heard, h, ih, List.flatMap_cons]
    rfl

end Stage

/-! ### The notes of a decision -/

namespace Comparison

/-- Whether the pattern, if there is one, is a pattern. -/
def patternCompiles (c : Comparison) : Bool := c.pattern.all Pattern.compiles

theorem applies_badPattern : Cause.badPattern.applies c r = !c.patternCompiles := by
  rw [Cause.applies, patternCompiles]
  cases c.pattern <;> rfl

theorem notes_decision_eq_heard (c : Comparison) (r : Reading) :
    (c.decision r).notes = Stage.heard c r Stage.all := by
  rw [decision_eq_run, Stage.notes_run Decision.Settled.start]
  exact List.nil_append _

/-- A decision has the notes of its two thresholds, unless there is no number to compare or
the pattern has ended the decision. The second one is heard unless the first one is none. -/
theorem notes_decision (c : Comparison) (r : Reading) :
    (c.decision r).notes =
      if !c.patternCompiles || Cause.notNumeric.applies c r then []
      else (Stage.finding c r (.threshold .warning)).notes ++
        if (Stage.finding c r (.threshold .warning)).cause.isSome then []
        else (Stage.finding c r (.threshold .critical)).notes := by
  rw [notes_decision_eq_heard, Stage.all]
  simp only [Stage.heard, Stage.cause_finding_text, Stage.cause_finding_pattern,
    Stage.cause_finding_number, Stage.notes_finding_text, Stage.notes_finding_pattern,
    Stage.notes_finding_number, applies_badPattern]
  cases c.patternCompiles <;> cases Cause.notNumeric.applies c r <;> simp

/-- Whether a threshold is set that is none. -/
def malformed (c : Comparison) (level : Level) : Bool :=
  (c.threshold level).any fun text => !(Threshold.parse text).isOk

end Comparison

/-- One line for a threshold that is set, and none for one that is not. -/
def LinesOn (level : Level) (v : Binary64) : Option String → List String → Prop
  | some text, lines => ∃ line, lines = [line] ∧ LineOn level v text line
  | none, lines => lines = []

theorem Stage.linesOn_finding (hv : r.number = some v) (level : Level) :
    LinesOn level v (c.threshold level)
      ((finding c r (threshold level)).notes.map Note.text) := by
  cases ht : c.threshold level with
  | none =>
    rw [finding_threshold_of_none ht]
    rfl
  | some text =>
    obtain ⟨n, hn, hfound⟩ := exists_finding_threshold hv ht
    rw [hfound]
    exact ⟨n.text, rfl, hn.lineOn⟩

namespace Comparison

/-- **The lines on the thresholds.** There are none if the pattern is none, no threshold is
set or the text is no number. Otherwise there is a line for the warning threshold if that is
set, and then one for the critical threshold if that is set and the former is one. -/
structure ExplainedBy (c : Comparison) (raw : String) (lines : List String) : Prop where
  silent : c.patternCompiles = false ∨ (c.warn = none ∧ c.crit = none) ∨
    Reading.numberOf raw = none → lines = []
  spoken : ∀ v, c.patternCompiles = true → Reading.numberOf raw = some v →
    ∃ warnLines critLines, lines = warnLines ++ critLines ∧
      LinesOn .warning v c.warn warnLines ∧
      LinesOn .critical v (if c.malformed .warning then none else c.crit) critLines

theorem explainedBy_decision (c : Comparison) (raw : String) :
    c.ExplainedBy raw ((c.decision (.ofText raw)).notes.map Note.text) where
  silent h := by
    rw [notes_decision]
    obtain hpattern | ⟨hwarn, hcrit⟩ | hnumber := h
    · rw [hpattern]
      rfl
    · have hnone : ∀ level, c.threshold level = none := by
        intro level
        cases level with
        | warning => exact hwarn
        | critical => exact hcrit
      rw [Stage.finding_threshold_of_none (hnone _), Stage.finding_threshold_of_none (hnone _)]
      exact congrArg (List.map Note.text) (ite_self _)
    · rw [Stage.finding_threshold_of_not_numeric hnumber,
        Stage.finding_threshold_of_not_numeric hnumber]
      exact congrArg (List.map Note.text) (ite_self _)
  spoken v hpattern hv := by
    -- The demand for a number is met, and neither threshold is skipped before it is its turn.
    have hnumber : Cause.notNumeric.applies c (.ofText raw) = false := by
      rw [Cause.applies, Reading.ofText, hv]
      exact Bool.and_false _
    rw [notes_decision, hpattern, hnumber, Bool.not_true, Bool.or_false,
      if_neg Bool.false_ne_true, List.map_append,
      Stage.cause_finding_threshold (r := .ofText raw) hv]
    refine ⟨_, _, rfl, Stage.linesOn_finding (r := .ofText raw) hv .warning, ?_⟩
    have hmalformed : (Cause.badThreshold .warning).applies c (.ofText raw) =
        c.malformed .warning := rfl
    rw [hmalformed]
    cases c.malformed .warning with
    | true => rfl
    | false => exact Stage.linesOn_finding (r := .ofText raw) hv .critical

/-- The notes depend on the thresholds and on whether there is a pattern that is none. -/
theorem notes_decision_congr {c' : Comparison} (hwarn : c'.warn = c.warn)
    (hcrit : c'.crit = c.crit) (hpattern : c'.patternCompiles = c.patternCompiles) :
    (c'.decision r).notes = (c.decision r).notes := by
  have hthreshold : c'.threshold = c.threshold := by
    funext level
    cases level with
    | warning => exact hwarn
    | critical => exact hcrit
  have hfinding : ∀ level,
      Stage.finding c' r (.threshold level) = Stage.finding c r (.threshold level) := by
    intro level
    rw [Stage.finding, Stage.finding, Stage.apply, Stage.apply, hthreshold]
  rw [notes_decision, notes_decision, hpattern, hfinding, hfinding, Cause.applies, Cause.applies,
    hasThreshold, hasThreshold, hwarn, hcrit]

/-! ### Notes and severity -/

/-- Whether the text is not the expected one. -/
def differs (c : Comparison) (raw : String) : Bool := c.expected.any (raw != ·)

/-- Whether there is a pattern, and it has no match in the text. -/
def misses (c : Comparison) (raw : String) : Bool :=
  c.pattern.any fun text => (Pattern.compile text).toOption.any fun p => !p.isMatch raw

/-- Nothing of a decision that can be made has a cause. -/
theorem cause_finding_eq_none (h : (c.decide r).severity ≠ .unknown) (s : Stage) :
    (s.finding c r).cause = none := by
  have hcause : (c.decision r).cause = none := by
    rw [← Option.not_isSome_iff_eq_none]
    exact mt (settled_decision c r).mp h
  rw [decision_eq_run, Stage.cause_run Decision.Settled.start, Decision.cause_start,
    Option.none_or, List.findSome?_eq_none_iff] at hcause
  exact hcause s (Stage.mem_all s)

end Comparison

namespace Stage

theorem severity_finding_text :
    (finding c r text).severity = if c.differs r.raw then .critical else .ok := by
  rw [finding, apply, Comparison.differs]
  cases c.expected with
  | none => rfl
  | some text =>
    by_cases h : r.raw = text <;>
      simp [Decision.compareText, Decision.raise, Decision.start, h]

theorem severity_finding_pattern (h : (finding c r pattern).cause = none) :
    (finding c r pattern).severity = if c.misses r.raw then .critical else .ok := by
  rw [finding, apply] at h ⊢
  rw [Comparison.misses]
  cases hp : c.pattern with
  | none => rfl
  | some text =>
    rw [hp, Decision.comparePattern] at h
    rw [Decision.comparePattern, Option.any_some]
    cases hc : Pattern.compile text with
    | error e =>
      rw [hc] at h
      cases h
    | ok m => cases hm : m.isMatch r.raw <;>
        simp [Except.toOption, Decision.raise, Decision.start, hm]

theorem severity_finding_number (h : (finding c r number).cause = none) :
    (finding c r number).severity = .ok := by
  rw [finding, apply, Decision.start_andThen] at h ⊢
  split at h
  · cases h
  · next hnumber =>
    rw [if_neg hnumber]
    rfl

/-- Only the threshold of a level is noted at that level. -/
theorem eq_threshold_of_exceeded_mem {s : Stage} (h : .exceeded level ∈ (finding c r s).notes) :
    s = threshold level := by
  cases s with
  | text =>
    rw [notes_finding_text] at h
    cases h
  | pattern =>
    rw [notes_finding_pattern] at h
    cases h
  | number =>
    rw [notes_finding_number] at h
    cases h
  | threshold level' =>
    obtain hstart | ⟨v, text, n, hn, hfound⟩ := finding_threshold_cases c r level'
    · rw [hstart] at h
      cases h
    · rw [hfound] at h
      obtain rfl := List.mem_singleton.mp h
      cases hn
      rfl

/-- A threshold adds to the severity exactly if it is noted that it is violated. -/
theorem severity_finding_threshold (h : (finding c r (threshold level)).cause = none) :
    (finding c r (threshold level)).severity =
      if .exceeded level ∈ (finding c r (threshold level)).notes then level.severity else .ok := by
  obtain hstart | ⟨v, text, n, hn, hfound⟩ := finding_threshold_cases c r level
  · rw [hstart]
    rfl
  · rw [hfound] at h ⊢
    cases hn with
    | exceeded => exact (if_pos (List.mem_singleton_self _)).symm
    | notExceeded => exact (if_neg (by simp [Note.found])).symm
    | strange => cases h

end Stage

namespace Comparison

/-- A decision that can be made has the notes of all stages, and only one of them is able
to note that the threshold of a level is violated. -/
theorem exceeded_mem_notes_decision_iff (h : (c.decide r).severity ≠ .unknown) :
    .exceeded level ∈ (c.decision r).notes ↔
      .exceeded level ∈ (Stage.finding c r (.threshold level)).notes := by
  rw [notes_decision_eq_heard, Stage.heard_eq_flatMap (cause_finding_eq_none h), List.mem_flatMap]
  constructor
  · rintro ⟨s, -, hs⟩
    rwa [Stage.eq_threshold_of_exceeded_mem hs] at hs
  · intro hmem
    exact ⟨.threshold level, Stage.mem_all _, hmem⟩

/-- **Severity and notes tell the same story.** -/
theorem severity_eq_max (h : (c.decide r).severity ≠ .unknown) :
    (c.decide r).severity =
      max (max (if c.differs r.raw || c.misses r.raw then .critical else .ok)
        (if .exceeded .warning ∈ (c.decision r).notes then .warning else .ok))
        (if .exceeded .critical ∈ (c.decision r).notes then .critical else .ok) := by
  have hcause := cause_finding_eq_none h
  have htext : (if c.differs r.raw || c.misses r.raw then .critical else .ok) =
      (Stage.finding c r .text).severity.escalate (Stage.finding c r .pattern).severity := by
    rw [Stage.severity_finding_text, Stage.severity_finding_pattern (hcause _)]
    cases c.differs r.raw <;> cases c.misses r.raw <;> rfl
  have hthreshold : ∀ level : Level,
      (if .exceeded level ∈ (c.decision r).notes then level.severity else .ok) =
        (Stage.finding c r (.threshold level)).severity := by
    intro level
    rw [Stage.severity_finding_threshold (hcause _)]
    simp only [exceeded_mem_notes_decision_iff h]
  -- All stages count for the severity, and the demand for a number is met.
  calc (c.decide r).severity
      = (Stage.all.map fun s => (Stage.finding c r s).severity).foldl Severity.escalate .ok := by
        show (c.decision r).severity = _
        rw [decision_eq_run, Stage.severity_run]
        rfl
    _ = (((Stage.finding c r .text).severity.escalate
          (Stage.finding c r .pattern).severity).escalate
          (Stage.finding c r (.threshold .warning)).severity).escalate
          (Stage.finding c r (.threshold .critical)).severity := by
        simp only [Stage.all, List.map_cons, List.map_nil, List.foldl_cons, List.foldl_nil,
          Stage.severity_finding_number (hcause _), Severity.ok_escalate, Severity.escalate_ok]
    _ = _ := by
        rw [← htext, ← hthreshold, ← hthreshold]
        rfl

end Comparison

/-! ### The notes of a report -/

namespace Plan

variable {p : Plan} {raw : String}

/-- The note on the value is never mistaken for one on a threshold. -/
theorem resultNote_ne_exceeded : resultNote raw ≠ (Note.exceeded level).text := by
  intro h
  have hhead : (resultNote raw).toList.head? = some 'R' := by
    have hopening : "Result: \"".toList.head? = some 'R' := by decide +kernel
    rw [resultNote, String.toList_append, String.toList_append, List.head?_append,
      List.head?_append, hopening, Option.some_or, Option.some_or]
  rw [h] at hhead
  revert hhead
  cases level <;> decide +kernel

theorem exceeded_mem_notes_report_iff (level : Level) :
    level.name ++ " threshold exceeded." ∈ (p.report (.ok raw)).notes ↔
      .exceeded level ∈ (p.comparison.decision (.ofText raw)).notes := by
  have hnotes : (p.report (.ok raw)).notes =
      resultNote raw :: (p.comparison.decision (.ofText raw)).notes.map Note.text := rfl
  change (Note.exceeded level).text ∈ _ ↔ _
  rw [hnotes, List.mem_cons, or_iff_right resultNote_ne_exceeded.symm,
    List.mem_map_of_injective Note.text_injective]

/-- **The notes are complete.** On a value there is the note that shows it, and then the
lines on the thresholds, and no notes are left with the verdict. They do not depend on the
expected text, nor on the pattern as long as there is none or it is one. On a failed query
there are none. A severity that is not unknown is what the notes and the comparisons of the
text amount to. -/
theorem notes_complete (p : Plan) :
    (∀ raw, (p.report (.ok raw)).verdict.notes = [] ∧
      ∃ lines, (p.report (.ok raw)).notes = ("Result: \"" ++ raw ++ "\"") :: lines ∧
        p.comparison.ExplainedBy raw lines) ∧
    (∀ (p' : Plan) raw, p'.comparison.warn = p.comparison.warn →
      p'.comparison.crit = p.comparison.crit →
      p'.comparison.patternCompiles = p.comparison.patternCompiles →
      (p'.report (.ok raw)).notes = (p.report (.ok raw)).notes) ∧
    (∀ e, (p.report (.error e)).notes = []) ∧
    ∀ raw, (p.report (.ok raw)).verdict.severity ≠ .unknown →
      (p.report (.ok raw)).verdict.severity =
        max (max
          (if p.comparison.differs raw || p.comparison.misses raw then .critical else .ok)
          (if "Warning threshold exceeded." ∈ (p.report (.ok raw)).notes then .warning else .ok))
          (if "Critical threshold exceeded." ∈ (p.report (.ok raw)).notes then .critical
            else .ok) := by
  refine ⟨?_, ?_, fun _ => rfl, ?_⟩
  · intro raw
    exact ⟨rfl, _, rfl, p.comparison.explainedBy_decision raw⟩
  · intro p' raw hwarn hcrit hpattern
    have hdecision := Comparison.notes_decision_congr (r := .ofText raw) hwarn hcrit hpattern
    exact congrArg (fun notes => resultNote raw :: notes.map Note.text) hdecision
  · intro raw hne
    have hwarning : "Warning threshold exceeded." ∈ (p.report (.ok raw)).notes ↔
        .exceeded .warning ∈ (p.comparison.decision (.ofText raw)).notes :=
      exceeded_mem_notes_report_iff .warning
    have hcritical : "Critical threshold exceeded." ∈ (p.report (.ok raw)).notes ↔
        .exceeded .critical ∈ (p.comparison.decision (.ofText raw)).notes :=
      exceeded_mem_notes_report_iff .critical
    simp only [hwarning, hcritical]
    exact Comparison.severity_eq_max (r := .ofText raw) hne

/-- Seven is not the six that is expected. It is above five and not above ten, which is
noted whether or not a text is expected. -/
theorem notes_complete_mismatch :
    let p : Plan := {
      connection := ⟨"db", 3306, "monitor", "", "app"⟩, query := "SELECT 7"
      comparison := ⟨some "6", none, some "5", some "10"⟩, verbose := true }
    let p' : Plan := { p with comparison := ⟨none, none, some "5", some "10"⟩ }
    (p.report (.ok "7")).notes =
        ["Result: \"7\"", "Warning threshold exceeded.", "Critical threshold not exceeded."] ∧
      (p'.report (.ok "7")).notes = (p.report (.ok "7")).notes ∧
      (p.report (.ok "7")).verdict.severity ≠ .unknown ∧
      (p.report (.ok "7")).verdict.severity = max (max .critical .warning) .ok := by
  intro p p'
  have hne : (p.report (.ok "7")).verdict.severity ≠ .unknown := by decide +kernel
  obtain ⟨-, hsame, -, hseverity⟩ := notes_complete p
  refine ⟨by decide +kernel, hsame p' "7" rfl rfl rfl, hne, ?_⟩
  rw [hseverity "7" hne]
  decide +kernel

end Plan

end SqlProbe
