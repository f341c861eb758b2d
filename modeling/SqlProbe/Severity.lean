/-!
# Severity

The four statuses of a check, in the order in which one overrides another. A
check starts from `ok`, and every finding can only raise it.

* `Severity.escalate`: the more severe of two, with `ok` as its unit.
* `Severity.exitCode`: the code by which the supervisor reads the status.
* `Severity.label`: the word that opens the status line.
-/

namespace SqlProbe

/-- The status reported to the monitoring supervisor. -/
inductive Severity where
  /-- Every configured comparison passed. -/
  | ok
  /-- The warning threshold was violated. -/
  | warning
  /-- A string, pattern or critical comparison failed. -/
  | critical
  /-- The check itself could not be evaluated. -/
  | unknown
deriving DecidableEq, Repr, Inhabited

namespace Severity

/-- The exit code the supervisor expects, and the place in the order. -/
def exitCode : Severity → Nat
  | ok => 0
  | warning => 1
  | critical => 2
  | unknown => 3

instance : LE Severity := ⟨fun a b => a.exitCode ≤ b.exitCode⟩

instance : LT Severity := ⟨fun a b => a.exitCode < b.exitCode⟩

instance (a b : Severity) : Decidable (a ≤ b) :=
  inferInstanceAs (Decidable (a.exitCode ≤ b.exitCode))

instance (a b : Severity) : Decidable (a < b) :=
  inferInstanceAs (Decidable (a.exitCode < b.exitCode))

instance : Ord Severity := ⟨fun a b => compare a.exitCode b.exitCode⟩

instance : Max Severity := ⟨fun a b => if a ≤ b then b else a⟩

/-- The more severe of two severities. -/
def escalate (a b : Severity) : Severity := max a b

/-- The word in front of the message on the status line. -/
def label : Severity → String
  | ok => "OK"
  | warning => "WARN"
  | critical => "CRIT"
  | unknown => "UNKNOWN"

/-- The full name of the status. -/
def name : Severity → String
  | ok => "OK"
  | warning => "WARNING"
  | critical => "CRITICAL"
  | unknown => "UNKNOWN"

/-! ### Escalation -/

theorem le_def {a b : Severity} : a ≤ b ↔ a.exitCode ≤ b.exitCode := Iff.rfl

@[simp] theorem escalate_ok (a : Severity) : a.escalate ok = a := by cases a <;> rfl

@[simp] theorem ok_escalate (a : Severity) : ok.escalate a = a := by cases a <;> rfl

@[simp] theorem escalate_self (a : Severity) : a.escalate a = a := by cases a <;> rfl

theorem escalate_assoc (a b c : Severity) :
    (a.escalate b).escalate c = a.escalate (b.escalate c) := by
  cases a <;> cases b <;> cases c <;> rfl

/-- The code of the more severe one is the larger code. -/
theorem exitCode_escalate (a b : Severity) :
    (a.escalate b).exitCode = Nat.max a.exitCode b.exitCode := by
  cases a <;> cases b <;> rfl

/-- Once unknown, always unknown: this is why skipping what follows is harmless. -/
@[simp] theorem unknown_escalate (a : Severity) : unknown.escalate a = unknown := by
  cases a <;> rfl

@[simp] theorem escalate_unknown (a : Severity) : a.escalate unknown = unknown := by
  cases a <;> rfl

theorem escalate_eq_ok_iff {a b : Severity} : a.escalate b = ok ↔ a = ok ∧ b = ok := by
  cases a <;> cases b <;> decide

theorem escalate_eq_unknown_iff {a b : Severity} :
    a.escalate b = unknown ↔ a = unknown ∨ b = unknown := by
  cases a <;> cases b <;> decide

theorem ok_le (a : Severity) : ok ≤ a := Nat.zero_le _

theorem le_refl (a : Severity) : a ≤ a := Nat.le_refl _

/-- Escalation is monotone in both of its arguments. -/
theorem escalate_le_escalate {a a' b b' : Severity} (ha : a ≤ a') (hb : b ≤ b') :
    a.escalate b ≤ a'.escalate b' := by
  rw [le_def] at ha hb ⊢
  rw [exitCode_escalate, exitCode_escalate]
  exact Nat.max_le.mpr ⟨Nat.le_trans ha (Nat.le_max_left _ _),
    Nat.le_trans hb (Nat.le_max_right _ _)⟩

end Severity

end SqlProbe
