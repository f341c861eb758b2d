import SqlProbe.Report

/-!
# Sessions

A check from its settings to its report. There is at most one query, and what
comes before and after it is computed without side effects: a session is either
finished, or it asks one query and knows the report for every reply.

* `Settings.session`: the check of some settings.
* `Plan.session`: the check of a plan.
* `Session.run`: a session with replies from a function.
-/

namespace SqlProbe

/-- What a query can answer. -/
abbrev Reply := Except QueryFailure String

/-- A check as far as it gets by itself. -/
inductive Session where
  /-- No query is needed. -/
  | finished (report : Report)
  /-- One query is asked, and its reply decides the report. -/
  | asks (connection : Connection) (query : String) (resume : Reply → Report)

namespace Session

/-- The report, given what answers the query. -/
def run (answer : Connection → String → Reply) : Session → Report
  | finished report => report
  | asks connection query resume => resume (answer connection query)

end Session

namespace QueryFailure

/-- The verdict on a failure. A query without a row cannot be judged; any other
failure is critical. -/
def verdict (e : QueryFailure) : Verdict :=
  match e with
  | connection _ => .critical e.message
  | query _ => .critical e.message
  | noRows => .unknown e.message

end QueryFailure

namespace Plan

/-- The note that shows the value returned. -/
def resultNote (raw : String) : String := "Result: \"" ++ raw ++ "\""

/-- The report on a reply. The notes of the verdict become those of the report. -/
def report (p : Plan) : Reply → Report
  | .error e => .ofVerdict e.verdict p.verbose
  | .ok raw =>
    let v := p.comparison.decide (Reading.ofText raw)
    { verdict := { v with notes := [] }
      notes := resultNote raw :: v.notes
      verbose := p.verbose }

/-- The check of a plan. -/
def session (p : Plan) : Session := .asks p.connection p.query p.report

end Plan

namespace Settings

/-- The check of some settings. -/
def session (s : Settings) : Session :=
  match s.plan with
  | .ok p => p.session
  | .error e => .finished (.ofSettingsError e s.verbose)

end Settings

end SqlProbe
