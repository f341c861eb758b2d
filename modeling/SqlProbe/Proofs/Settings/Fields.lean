import Mathlib.Data.List.Basic
import SqlProbe.Settings.File

/-!
# Settings field by field

The settings that a file may hold have values of four kinds. With the kind of a field
told by its key (`FileKey.Content`), what a layer sets, what settings hold and what is
laid over them can each be told for all fields at once:

* `Layer.get`, `Layer.put`: one field of a layer, and a layer with one field changed.
* `Settings.get`: one field of settings.
* `Settings.get_overlay`: a field of settings under a layer is that of the layer, if the
  layer sets it.
* `Layer.ext_get`, `Settings.ext_get`: there is nothing else in a layer, and nothing but
  the name of the file in settings.
-/

namespace SqlProbe

/-- What the value of a field can be. -/
inductive FieldKind where
  /-- Any text. -/
  | text
  /-- A port number. -/
  | port
  /-- A truth value. -/
  | truth
  /-- The form of log records. -/
  | format
deriving DecidableEq, Repr

/-- The values of a kind. -/
def FieldKind.Content : FieldKind → Type
  | text => String
  | port => UInt16
  | truth => Bool
  | format => LogFormat

namespace FileKey

/-- The kind of a field. -/
def kind : FileKey → FieldKind
  | port => .port
  | verbose => .truth
  | logFormat => .format
  | _ => .text

/-- The values of a field. -/
abbrev Content (k : FileKey) : Type := k.kind.Content

end FileKey

/-! ### Layers -/

namespace Layer

variable {l l' : Layer} {k k' : FileKey}

/-- A field of a layer. -/
def get (l : Layer) : (k : FileKey) → Option k.Content
  | .host => l.host
  | .port => l.port
  | .database => l.database
  | .user => l.user
  | .password => l.password
  | .query => l.query
  | .expected => l.expected
  | .pattern => l.pattern
  | .warn => l.warn
  | .crit => l.crit
  | .verbose => l.verbose
  | .logLevel => l.logLevel
  | .logFormat => l.logFormat

/-- A layer with one field changed. -/
def put (l : Layer) : (k : FileKey) → Option k.Content → Layer
  | .host, v => { l with host := v }
  | .port, v => { l with port := v }
  | .database, v => { l with database := v }
  | .user, v => { l with user := v }
  | .password, v => { l with password := v }
  | .query, v => { l with query := v }
  | .expected, v => { l with expected := v }
  | .pattern, v => { l with pattern := v }
  | .warn, v => { l with warn := v }
  | .crit, v => { l with crit := v }
  | .verbose, v => { l with verbose := v }
  | .logLevel, v => { l with logLevel := v }
  | .logFormat, v => { l with logFormat := v }

@[simp] theorem get_empty (k : FileKey) : empty.get k = none := by cases k <;> rfl

@[simp] theorem get_put_self (l : Layer) (k : FileKey) (v : Option k.Content) :
    (l.put k v).get k = v := by
  cases k <;> rfl

/-- A change of one field leaves the others as they are. -/
theorem get_put_of_ne (h : k' ≠ k) (l : Layer) (v : Option k.Content) :
    (l.put k v).get k' = l.get k' := by
  cases k <;> cases k' <;> first | rfl | exact absurd rfl h

/-- A layer is its fields. -/
theorem ext_get (h : ∀ k, l.get k = l'.get k) : l = l' := by
  cases l
  cases l'
  exact (Layer.mk.injEq ..).mpr ⟨h .host, h .port, h .database, h .user, h .password, h .query,
    h .expected, h .pattern, h .warn, h .crit, h .verbose, h .logLevel, h .logFormat⟩

/-- **Two layers as one.** What the upper one sets wins. -/
theorem get_atop (upper lower : Layer) (k : FileKey) :
    (upper.atop lower).get k = (upper.get k).or (lower.get k) := by
  cases k <;> rfl

end Layer

/-! ### Settings -/

namespace Settings

variable {s s' : Settings}

/-- A field of settings. The port, the form of log records and whether the verdict is
explained are always there. -/
def get (s : Settings) : (k : FileKey) → Option k.Content
  | .host => s.host
  | .port => some s.port
  | .database => s.database
  | .user => s.user
  | .password => s.password
  | .query => s.query
  | .expected => s.expected
  | .pattern => s.pattern
  | .warn => s.warn
  | .crit => s.crit
  | .verbose => some s.verbose
  | .logLevel => s.logLevel
  | .logFormat => some s.logFormat

/-- **A layer over settings.** What it sets is set, and the rest is as before. -/
theorem get_overlay (s : Settings) (l : Layer) (k : FileKey) :
    (s.overlay l).get k = (l.get k).or (s.get k) := by
  cases k
  case port | verbose | logFormat => exact Option.or_some.symm
  all_goals rfl

/-- Settings are their fields and the name of the file. -/
theorem ext_get (h : ∀ k, s.get k = s'.get k) (hfile : s.file = s'.file) : s = s' := by
  cases s
  cases s'
  exact (Settings.mk.injEq ..).mpr ⟨h .host, Option.some.inj (h .port), h .database, h .user,
    h .password, h .query, h .expected, h .pattern, h .warn, h .crit,
    Option.some.inj (h .verbose), h .logLevel, Option.some.inj (h .logFormat), hfile⟩

/-- What is absent under a layer was absent before. -/
theorem missing_overlay_sublist (s : Settings) (l : Layer) :
    (s.overlay l).missing.Sublist s.missing := by
  refine List.monotone_filter_right _ fun r hr => ?_
  cases r <;> simp_all [required?, overlay]

end Settings

end SqlProbe
