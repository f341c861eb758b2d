import SqlProbe.Proofs.Numeral.Reader
import SqlProbe.Proofs.Session
import SqlProbe.Proofs.Text.Quoted

/-!
# Nothing printed depends on the password

The password goes from the settings into the plan and from there into the connection, and
it ends there. Two runs with different passwords are compared: if what answers the query
does not look at the password, they make the same report (`Settings.run_withPassword`),
whether the settings are complete or not, and whether the query succeeds or not. All that
is printed, and the exit code, is made of the report.

A connection is printed in a log, and there the password is left out. What is printed is
exactly the rest (`Connection.describe_eq_iff`). The words between the parts could stand in
a part as well, and a part can hold quotes; but quoting tells where a part ends
(`Text.quote_append_inj`), and a port has no character but digits.

`Settings.password_not_revealed` says both.
-/

namespace SqlProbe

/-! ### Connections in a log -/

/-- A number is told from what stands after it by its digits. -/
theorem Digit.repr_append_inj {n m : Nat} {x y : String}
    (hx : Numeral.NoDigit isDecimal x.toList) (hy : Numeral.NoDigit isDecimal y.toList) :
    n.repr ++ x = m.repr ++ y ↔ n = m ∧ x = y := by
  refine ⟨fun h => ?_, fun h => by rw [h.1, h.2]⟩
  rw [← String.toList_inj, String.toList_append, String.toList_append,
    Nat.repr_eq_ofList_toDigits, Nat.repr_eq_ofList_toDigits, String.toList_ofList,
    String.toList_ofList] at h
  -- Cut after its digits, the one text gives the two parts of the other one.
  have hcut := congrArg spanDecimal h
  rw [Numeral.spanDecimal_append (plainRun_toDigits n).all hx,
    Numeral.spanDecimal_append (plainRun_toDigits m).all hy] at hcut
  obtain ⟨hdigits, hrest⟩ := Prod.mk.inj hcut
  refine ⟨?_, String.toList_inj.mp hrest⟩
  calc n = natOf 10 (Nat.toDigits 10 n) := (natOf_toDigits (by decide) (by decide) n).symm
    _ = natOf 10 (Nat.toDigits 10 m) := by rw [hdigits]
    _ = m := natOf_toDigits (by decide) (by decide) m

namespace Connection

variable {c d : Connection}

/-- The connection with another password. -/
def withPassword (c : Connection) (password : String) : Connection := { c with password }

/-- **A connection in a log** shows everything but the password. -/
theorem describe_eq_iff : c.describe = d.describe ↔
    c.host = d.host ∧ c.port = d.port ∧ c.user = d.user ∧ c.database = d.database := by
  have hword : ", user: ".toList = ',' :: " user: ".toList := by decide +kernel
  have hcomma : ∀ s : String, Numeral.NoDigit Digit.isDecimal (", user: " ++ s).toList := by
    intro s
    rw [String.toList_append, hword, List.cons_append, Numeral.noDigit_cons]
    decide
  -- From the left to the right, either the same words are on both sides, or a part ends.
  unfold describe
  simp only [String.append_assoc]
  rw [String.append_right_inj, Text.quote_append_inj, String.append_right_inj,
    Digit.repr_append_inj (hcomma _) (hcomma _), String.append_right_inj, Text.quote_append_inj,
    String.append_right_inj, String.append_right_inj, String.append_right_inj,
    Text.quote_append_inj, UInt16.toNat_inj, eq_self_iff_true, and_true]

end Connection

/-! ### Two runs -/

/-- What answers a query does not look at the password. -/
def IgnoresPassword (answer : Connection → String → Reply) : Prop :=
  ∀ c password query, answer (c.withPassword password) query = answer c query

namespace Settings

variable {s : Settings}

/-- The settings with a password. -/
def withPassword (s : Settings) (password : String) : Settings :=
  { s with password := some password }

/-- **Two passwords, one report.** -/
theorem run_withPassword {answer : Connection → String → Reply} (hanswer : IgnoresPassword answer)
    (s : Settings) (p q : String) :
    (s.withPassword p).session.run answer = (s.withPassword q).session.run answer := by
  -- What is absent and which rules are broken is the same for both.
  by_cases habsent : (s.withPassword p).absentNames = []
  · by_cases hbroken : s.violations = []
    · -- The plans differ in the password alone, and there it is not looked at.
      obtain ⟨host, database, user, -, query, hh, hd, hu, -, hq⟩ :=
        absentNames_eq_nil_iff.mp habsent
      have hplan : ∀ password, (s.withPassword password).plan =
          .ok ⟨⟨host, s.port, user, password, database⟩, query, s.comparison, s.verbose⟩ :=
        fun password => plan_eq_ok_iff.mpr
          ⟨hbroken, host, database, user, password, query, hh, hd, hu, rfl, hq, rfl⟩
      have hreply : answer ⟨host, s.port, user, p, database⟩ query =
          answer ⟨host, s.port, user, q, database⟩ query :=
        hanswer ⟨host, s.port, user, q, database⟩ p query
      rw [run_session, run_session, hplan, hplan]
      simp only [hreply]
      cases answer ⟨host, s.port, user, q, database⟩ query <;> rfl
    · rw [session_of_broken habsent hbroken,
        session_of_broken (s := s.withPassword q) habsent hbroken]
      rfl
  · rw [session_of_absent habsent, session_of_absent (s := s.withPassword q) habsent]
    rfl

/-- **The password is not revealed.** Two runs whose settings differ in the text of the
password make the same report, with the same verdict, notes and flag, print the same and
exit with the same code, unless what answers the query tells them apart. And two connections
look the same in a log exactly if host, port, user and database are the same, whatever
characters these contain. -/
theorem password_not_revealed :
    (∀ answer : Connection → String → Reply, IgnoresPassword answer →
      ∀ (s : Settings) (p q : String),
        (s.withPassword p).session.run answer = (s.withPassword q).session.run answer ∧
        ((s.withPassword p).session.run answer).text =
          ((s.withPassword q).session.run answer).text ∧
        ((s.withPassword p).session.run answer).exitCode =
          ((s.withPassword q).session.run answer).exitCode) ∧
    ∀ c d : Connection, c.describe = d.describe ↔
      c.host = d.host ∧ c.port = d.port ∧ c.user = d.user ∧ c.database = d.database := by
  constructor
  · intro answer hanswer s p q
    have hrun := run_withPassword hanswer s p q
    exact ⟨hrun, congrArg Report.text hrun, congrArg Report.exitCode hrun⟩
  · intro c d
    exact Connection.describe_eq_iff

/-- A complete check with two passwords, against what only looks at the host, and two
connections with these passwords. -/
theorem password_not_revealed_complete :
    let answer : Connection → String → Reply := fun c query =>
      if c.host = "db" then .ok query else .error .noRows
    let s : Settings := { initial with
      host := some "db", database := some "app", user := some "monitor", query := some "7",
      crit := some "5" }
    IgnoresPassword answer ∧
      ((s.withPassword "one").session.run answer).verdict = ⟨.critical, "7", []⟩ ∧
      (s.withPassword "one").session.run answer = (s.withPassword "two").session.run answer ∧
      Connection.describe ⟨"db", 3306, "a\", \"b", "one", "app"⟩ =
        Connection.describe ⟨"db", 3306, "a\", \"b", "two", "app"⟩ := by
  intro answer s
  have hanswer : IgnoresPassword answer := fun c password query => rfl
  obtain ⟨hrun, hlog⟩ := password_not_revealed
  exact ⟨hanswer, by decide +kernel, (hrun answer hanswer s "one" "two").1,
    (hlog _ _).mpr ⟨rfl, rfl, rfl, rfl⟩⟩

end Settings

end SqlProbe
