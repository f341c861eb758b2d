import SqlProbe.Proofs.Report.Lines
import SqlProbe.Proofs.Session

/-!
# Explained runs

The same check can be run for a supervisor and for an operator. The flag that tells the
two apart passes through the settings, the plan and the report, and is read again at
several places on the way. Yet nothing that is computed depends on it before the report
is printed: a session with the flag is the session without it, with the flag set in
whatever report comes out (`Settings.session_withVerbose`). From this one equation
follows how the two runs compare (`Settings.verbose_additive`): the query is the same,
or there is none in either; so are the verdict and the notes; and what is printed for
an operator is the notes, followed by what is printed for the supervisor.

How the notes are printed is another question. The note on the result quotes the value
as it was returned, and the note on a malformed threshold quotes the threshold; the
words around them have no line feed (`Note.feed_mem_text_iff`). So every line in front
of the status line is marked as one for an operator exactly if what is quoted has none
(`Settings.marksNotes_run_iff`), and a value of two lines breaks the marking
(`Settings.not_marksNotes_run`).
-/

namespace SqlProbe

/-! ### Setting the flag -/

/-- The report, to be printed for an operator or not. -/
def Report.withVerbose (r : Report) (verbose : Bool) : Report := { r with verbose }

/-- The plan, for an operator or not. -/
def Plan.withVerbose (p : Plan) (verbose : Bool) : Plan := { p with verbose }

/-- The settings, for an operator or not. -/
def Settings.withVerbose (s : Settings) (verbose : Bool) : Settings := { s with verbose }

namespace Session

/-- The query that is asked, if one is. -/
def request? : Session → Option (Connection × String)
  | finished _ => none
  | asks connection query _ => some (connection, query)

/-- The session with its report changed, whatever the reply is. -/
def mapReport (f : Report → Report) : Session → Session
  | finished report => finished (f report)
  | asks connection query resume => asks connection query fun reply => f (resume reply)

@[simp] theorem request?_mapReport (f : Report → Report) (session : Session) :
    (session.mapReport f).request? = session.request? := by
  cases session <;> rfl

@[simp] theorem run_mapReport (f : Report → Report) (session : Session)
    (answer : Connection → String → Reply) :
    (session.mapReport f).run answer = f (session.run answer) := by
  cases session <;> rfl

end Session

/-- A reply is judged without the flag. -/
theorem Plan.report_withVerbose (p : Plan) (verbose : Bool) (reply : Reply) :
    (p.withVerbose verbose).report reply = (p.report reply).withVerbose verbose := by
  cases reply <;> rfl

theorem Plan.session_withVerbose (p : Plan) (verbose : Bool) :
    (p.withVerbose verbose).session = p.session.mapReport fun r => r.withVerbose verbose :=
  congrArg (Session.asks p.connection p.query) (funext (p.report_withVerbose verbose))

namespace Settings

variable {s : Settings}

/-- A plan is the same one but for the flag. -/
theorem plan_withVerbose {p : Plan} (h : s.plan = .ok p) (verbose : Bool) :
    (s.withVerbose verbose).plan = .ok (p.withVerbose verbose) := by
  obtain ⟨hvalid, host, database, user, password, query, hh, hd, hu, hp, hq, rfl⟩ :=
    plan_eq_ok_iff.mp h
  exact plan_eq_ok_iff.mpr ⟨hvalid, host, database, user, password, query, hh, hd, hu, hp, hq, rfl⟩

/-- **The flag is only passed on.** A session with the flag is the session without it,
but for the flag of its report. -/
theorem session_withVerbose (s : Settings) (verbose : Bool) :
    (s.withVerbose verbose).session = s.session.mapReport fun r => r.withVerbose verbose := by
  by_cases habsent : s.absentNames = []
  · by_cases hbroken : s.violations = []
    · obtain ⟨host, database, user, password, query, hh, hd, hu, hp, hq⟩ :=
        absentNames_eq_nil_iff.mp habsent
      have hplan := plan_eq_ok_iff.mpr
        ⟨hbroken, host, database, user, password, query, hh, hd, hu, hp, hq, rfl⟩
      rw [session, session, plan_withVerbose hplan, hplan]
      exact Plan.session_withVerbose _ verbose
    · rw [session_of_broken habsent hbroken,
        session_of_broken (s := s.withVerbose verbose) habsent hbroken]
      rfl
  · rw [session_of_absent habsent, session_of_absent (s := s.withVerbose verbose) habsent]
    rfl

/-- Hence so is its report, whatever answers the query. -/
theorem run_withVerbose (s : Settings) (verbose : Bool) (answer : Connection → String → Reply) :
    (s.withVerbose verbose).session.run answer =
      (s.session.run answer).withVerbose verbose := by
  rw [session_withVerbose, Session.run_mapReport]

end Settings

namespace Report

variable (r : Report)

/-- What is printed for the supervisor is printed for the operator, after the notes. -/
theorem text_withVerbose :
    (r.withVerbose true).text =
      String.join (r.notes.map fun note => "+ " ++ note ++ "\n") ++ (r.withVerbose false).text := by
  have hquiet : (r.withVerbose false).text = r.statusLine ++ "\n" := by
    rw [text_eq]
    exact congrArg (· ++ "\n") String.empty_append
  rw [hquiet, ← String.append_assoc]
  rfl

end Report

/-- **Explaining adds, and changes nothing else.** With the flag and without it, a run asks
the same query, or none in either case, and comes to the same verdict and the same notes.
With it, the notes are printed first, each of them marked, and then what is printed without
it. Beside the flag itself only the exit code differs: without the flag it is the code of
the severity, and with it always that of an unknown status. -/
theorem Settings.verbose_additive (s : Settings) (answer : Connection → String → Reply) :
    (s.withVerbose true).session.request? = (s.withVerbose false).session.request? ∧
    ∃ quiet explained : Report,
      (s.withVerbose false).session.run answer = quiet ∧
      (s.withVerbose true).session.run answer = explained ∧
      explained.verdict = quiet.verdict ∧ explained.notes = quiet.notes ∧
      explained.text =
        String.join (quiet.notes.map fun note => "+ " ++ note ++ "\n") ++ quiet.text ∧
      quiet.verbose = false ∧ explained.verbose = true ∧
      quiet.exitCode = quiet.verdict.severity.exitCode ∧ explained.exitCode = 3 := by
  refine ⟨?_, _, _, run_withVerbose s false answer, run_withVerbose s true answer, rfl, rfl,
    Report.text_withVerbose _, rfl, rfl, rfl, rfl⟩
  rw [session_withVerbose, session_withVerbose, Session.request?_mapReport,
    Session.request?_mapReport]

/-! ### The marks of the notes -/

/-- The words of a note have no line feed, except in a threshold that they quote. -/
theorem Note.feed_mem_text_iff {n : Note} :
    '\n' ∈ n.text.toList ↔ ∃ level raw, n = .strange level raw ∧ '\n' ∈ raw.toList := by
  cases n with
  | exceeded level =>
    refine iff_of_false ?_ (by simp)
    cases level <;> decide +kernel
  | notExceeded level =>
    refine iff_of_false ?_ (by simp)
    cases level <;> decide +kernel
  | strange level raw =>
    have hopening : '\n' ∉ "\"".toList := by decide +kernel
    have hclosing : '\n' ∉ ("\" is a strange and confusing " ++ level.name ++ " value.").toList := by
      cases level <;> decide +kernel
    have htext : (Note.strange level raw).text =
        "\"" ++ raw ++ ("\" is a strange and confusing " ++ level.name ++ " value.") := by
      simp only [Note.text, String.append_assoc]
    rw [htext, String.toList_append, String.toList_append, List.mem_append, List.mem_append,
      or_iff_right hopening, or_iff_left hclosing]
    simp

/-- Neither have those of the note on the result, except in the value. -/
theorem Plan.feed_mem_resultNote_iff {raw : String} :
    '\n' ∈ (Plan.resultNote raw).toList ↔ '\n' ∈ raw.toList := by
  have hopening : '\n' ∉ "Result: \"".toList := by decide +kernel
  have hclosing : '\n' ∉ "\"".toList := by decide +kernel
  rw [Plan.resultNote, String.toList_append, String.toList_append, List.mem_append,
    List.mem_append, or_iff_right hopening, or_iff_left hclosing]

/-- The notes on a reply have no line feed exactly if the value has none and no threshold
that a note quotes has one. -/
theorem Plan.notes_report_iff {p : Plan} {reply : Reply} :
    (∀ note ∈ (p.report reply).notes, '\n' ∉ note.toList) ↔
      ∀ raw, reply = .ok raw → '\n' ∉ raw.toList ∧
        ∀ level t, .strange level t ∈ (p.comparison.decision (.ofText raw)).notes →
          '\n' ∉ t.toList := by
  cases reply with
  | error e => exact iff_of_true (List.forall_mem_nil _) (fun raw h => nomatch h)
  | ok raw =>
    have hnotes : (p.report (.ok raw)).notes =
        Plan.resultNote raw :: (p.comparison.decision (.ofText raw)).notes.map Note.text := rfl
    simp only [Except.ok.injEq, forall_eq']
    rw [hnotes, List.forall_mem_cons, Plan.feed_mem_resultNote_iff, List.forall_mem_map]
    refine and_congr_right fun _ => ⟨fun h level t ht hfeed => ?_, fun h n hn hfeed => ?_⟩
    · exact h _ ht (Note.feed_mem_text_iff.mpr ⟨level, t, rfl, hfeed⟩)
    · obtain ⟨level, t, rfl, ht⟩ := Note.feed_mem_text_iff.mp hfeed
      exact h level t hn ht

/-- **When the lines of a run are marked.** They are one for each note, all of them marked,
exactly if there is no value, or the value has no line feed and neither has a threshold
that is none and is quoted for that. -/
theorem Settings.marksNotes_run_iff (s : Settings) (answer : Connection → String → Reply) :
    ((s.withVerbose true).session.run answer).MarksNotes ↔
      ∀ p raw, s.plan = .ok p → answer p.connection p.query = .ok raw →
        '\n' ∉ raw.toList ∧
        ∀ level t, .strange level t ∈ (p.comparison.decision (.ofText raw)).notes →
          '\n' ∉ t.toList := by
  have hnotes : ((s.session.run answer).withVerbose true).notes = (s.session.run answer).notes := rfl
  rw [run_withVerbose, Report.marksNotes_iff rfl, hnotes, run_session]
  cases s.plan with
  | error e => exact iff_of_true (List.forall_mem_nil _) (fun p raw h => nomatch h)
  | ok p =>
    simp only [Plan.notes_report_iff, Except.ok.injEq]
    exact ⟨fun h p' raw hp => hp ▸ h raw, fun h raw => h p raw rfl⟩

/-- A value of two lines puts a line without a mark in front of the status line. -/
theorem Settings.not_marksNotes_run :
    let s : Settings := { Settings.initial with
      host := some "db", database := some "app", user := some "monitor", password := some "",
      query := some "SELECT 1", verbose := true }
    let r := s.session.run fun _ _ => .ok "a\nb"
    r.notes = ["Result: \"a\nb\""] ∧
    Report.lines r.text = ["+ Result: \"a", "b\"", "OK: a b", ""] ∧ ¬ r.MarksNotes := by
  intro s r
  have hnotes : r.notes = ["Result: \"a\nb\""] := by decide +kernel
  have hmarks : ¬ r.MarksNotes := by
    rw [Report.marksNotes_iff rfl, hnotes, List.forall_mem_singleton]
    decide +kernel
  exact ⟨hnotes, by decide +kernel, hmarks⟩

end SqlProbe
