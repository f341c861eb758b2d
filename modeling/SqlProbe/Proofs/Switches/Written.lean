import SqlProbe.Proofs.Numeral.Writing
import SqlProbe.Proofs.Switches.Spelling

/-!
# Arguments written as a line

A line writes arguments if each of its own arguments writes one part of them, in the form
`--name=value` or as the bare `--verbose`, and no part is written twice
(`Arguments.WrittenAs`). Such a line is read as what it writes
(`Arguments.WrittenAs.parse`), the parts can be written in any order
(`Arguments.WrittenAs.perm`), and all arguments without a call for help have such a line
(`Arguments.writtenAs_line`).

Which parts a line writes is followed with the arguments cut down to one switch
(`Arguments.part`), of which they are the union.
-/

namespace SqlProbe

namespace Switch

variable {s : Switch} {arg value : RawText} {a : Arguments}

/-- A switch and its value as one argument. -/
def argument (s : Switch) (value : RawText) : RawText :=
  ⟨(RawText.ofString ("--" ++ s.longName ++ "=")).pieces ++ value.pieces⟩

/-- **What one argument writes.** -/
inductive Writes : Switch → RawText → Arguments → Prop where
  /-- A value that the switch admits. -/
  | value {s : Switch} {value : RawText} {a : Arguments} (h : s.Sets value a) :
      Writes s (s.argument value) a
  /-- The switch that takes no value. -/
  | verbose : Writes .verbose (.ofString "--verbose") { Arguments.none with verbose := true }

theorem Sets.takesValue (h : s.Sets value a) : s.takesValue = true := by
  cases h <;> rfl

/-- What is written is said, and is what is set by it. -/
theorem Writes.said (h : s.Writes arg a) :
    ∃ value, Use.ofArgument? arg = some ⟨[(s, value)], none⟩ ∧
      Arguments.none.setValue s value = .ok a := by
  cases h with
  | value h =>
    have hs := h.takesValue
    exact ⟨_, Use.ofArgument?_longValue hs _, (Arguments.setValue_eq_ok_iff hs).mpr h⟩
  | verbose => exact ⟨⟨[]⟩, rfl, rfl⟩

/-- One argument writes one part and nothing else. -/
theorem Writes.uses (h : s.Writes arg a) (s' : Switch) : a.uses s' = true ↔ s' = s := by
  obtain ⟨value, -, hset⟩ := h.said
  exact Arguments.uses_setValue hset s'

end Switch

namespace Arguments

variable {a b c : Arguments} {s s' : Switch} {arg : RawText} {args args' : List RawText}

/-- **Arguments written as a line**, one part after the other and none of them twice. -/
inductive WrittenAs : Arguments → List RawText → Prop where
  | nil : WrittenAs none []
  | cons {a b : Arguments} {s : Switch} {arg : RawText} {args : List RawText}
      (harg : s.Writes arg b) (hargs : WrittenAs a args) (hs : a.uses s = false) :
      WrittenAs (b.union a) (arg :: args)

/-! ### Reading -/

theorem disjoint_of_writes (h : s.Writes arg b) (hs : a.uses s = false) : b.Disjoint a := by
  obtain ⟨value, -, hset⟩ := h.said
  exact ((disjoint_setValue_iff hset).mpr hs).symm

/-- What is written is said, and all of it can be set. -/
theorem WrittenAs.said (h : a.WrittenAs args) :
    ∃ us, Use.ofLine? args = some (us, false) ∧ none.useAll us = .ok a := by
  induction h with
  | nil => exact ⟨[], rfl, rfl⟩
  | @cons a b s arg args harg hargs hs ih =>
    obtain ⟨value, hsaid, hset⟩ := harg.said
    obtain ⟨us, hline, hus⟩ := ih
    refine ⟨(s, value) :: us, ?_, ?_⟩
    · rw [Use.ofLine?_cons hsaid, hline]
      rfl
    · have huse : none.use s value = .ok b := use_eq_ok_iff.mpr ⟨uses_none s, b, hset, rfl⟩
      have hrest : b.useAll us = .ok (b.union a) :=
        useAll_eq_ok_iff.mpr ⟨a, hus, disjoint_of_writes harg hs, rfl⟩
      exact useAll_cons_eq_ok_iff.mpr ⟨b, huse, hrest⟩

/-- **A written line is read** as what it writes. -/
theorem WrittenAs.parse (h : a.WrittenAs args) : parse args = .ok a := by
  obtain ⟨us, hline, hus⟩ := h.said
  exact parse_eq_ok_iff.mpr ⟨us, false, hline, hus⟩

theorem union_left_comm (h : a.Disjoint b) : a.union (b.union c) = b.union (a.union c) := by
  rw [← union_assoc, ← union_assoc, union_comm h]

/-- Two parts change places. -/
theorem WrittenAs.swap {arg' : RawText} (h : a.WrittenAs (arg :: arg' :: args)) :
    a.WrittenAs (arg' :: arg :: args) := by
  cases h with
  | @cons _ b s _ _ harg hargs hs =>
  cases hargs with
  | @cons a c s' _ _ harg' hargs hs' =>
  rw [uses_union, Bool.or_eq_false_iff] at hs
  -- The first part is used nowhere behind it, and so not in the second one either.
  have hbc : b.Disjoint c := disjoint_of_writes harg hs.1
  have hb : b.uses s' = false :=
    Bool.eq_false_iff.mpr fun hb => hbc s' ⟨hb, (harg'.uses s').mpr rfl⟩
  rw [union_left_comm hbc]
  exact .cons harg' (.cons harg hargs hs.2) (by rw [uses_union, hb, hs', Bool.or_false])

/-- **The order does not matter.** -/
theorem WrittenAs.perm (hp : args.Perm args') (h : a.WrittenAs args) : a.WrittenAs args' := by
  induction hp generalizing a with
  | nil => exact h
  | cons arg _ ih =>
    cases h with
    | cons harg hargs hs => exact .cons harg (ih hargs) hs
  | swap => exact h.swap
  | trans _ _ ih ih' => exact ih' (ih h)

/-- No switch of a written line asks for help. -/
theorem WrittenAs.help (h : a.WrittenAs args) : a.help = false := by
  induction h with
  | nil => rfl
  | @cons a b s arg args harg _ _ ih =>
    have hb : b.help = false := by
      cases harg with
      | value h => cases h <;> rfl
      | verbose => rfl
    rw [union, hb, ih, Bool.false_or]

/-! ### Writing -/

/-- The arguments cut down to one switch. -/
def part (a : Arguments) : Switch → Arguments
  | .query => { none with query := a.query }
  | .result => { none with result := a.result }
  | .regex => { none with regex := a.regex }
  | .warn => { none with warn := a.warn }
  | .crit => { none with crit := a.crit }
  | .file => { none with file := a.file }
  | .host => { none with host := a.host }
  | .port => { none with port := a.port }
  | .database => { none with database := a.database }
  | .user => { none with user := a.user }
  | .pass => { none with pass := a.pass }
  | .logFormat => { none with logFormat := a.logFormat }
  | .verbose => { none with verbose := a.verbose }
  | .help => { none with help := a.help }

/-- The arguments cut down to some switches. -/
def parts (a : Arguments) (ss : List Switch) : Arguments :=
  ss.foldr (fun s => (a.part s).union) none

/-- What stands for the value of a switch. -/
def value? (a : Arguments) : Switch → Option RawText
  | .query => a.query.map .ofString
  | .result => a.result.map .ofString
  | .regex => a.regex.map .ofString
  | .warn => a.warn.map .ofString
  | .crit => a.crit.map .ofString
  | .file => a.file
  | .host => a.host.map .ofString
  | .port => a.port.map fun p => .ofString (String.ofList (Nat.toDigits 10 p.toNat))
  | .database => a.database.map .ofString
  | .user => a.user.map .ofString
  | .pass => a.pass.map .ofString
  | .logFormat => a.logFormat.map fun f => .ofString f.name
  | .verbose => .none
  | .help => .none

/-- What is written for a switch, if it is used. -/
def argument? (a : Arguments) : Switch → Option RawText
  | .verbose => if a.verbose then some (.ofString "--verbose") else .none
  | s => (a.value? s).map s.argument

/-- A line of some switches. -/
def lineOf (a : Arguments) (ss : List Switch) : List RawText := ss.filterMap a.argument?

/-- A line of all switches, in the order of the help text. -/
def line (a : Arguments) : List RawText := a.lineOf Switch.all

theorem uses_part (a : Arguments) (s s' : Switch) :
    (a.part s).uses s' = true ↔ s' = s ∧ a.uses s' = true := by
  cases s <;> cases s' <;> simp [part, uses, none]

theorem uses_parts (a : Arguments) (ss : List Switch) (s : Switch) :
    (a.parts ss).uses s = true ↔ s ∈ ss ∧ a.uses s = true := by
  induction ss with
  | nil => simp [parts]
  | cons s' ss ih =>
    change ((a.part s').union (a.parts ss)).uses s = true ↔ _
    rw [uses_union, Bool.or_eq_true, uses_part, ih, List.mem_cons, or_and_right]

/-- Arguments are the union of their parts. -/
theorem parts_all (a : Arguments) : a.parts Switch.all = a := by
  simp [parts, Switch.all, part, union, none]

/-- A port in decimal digits. -/
theorem integer_toDigits (n : Nat) : Port.Integer (Nat.toDigits 10 n) n := by
  have hinteger := Port.Integer.intro .absent (Digit.plainRun_toDigits n)
  rwa [List.nil_append, Digit.natOf_toDigits (by decide) (by decide)] at hinteger

theorem parse_name (f : LogFormat) : LogFormat.parse f.name = .ok f := by
  cases f <;> decide +kernel

/-- What stands for a value sets it. -/
theorem sets_part {value : RawText} (hvalue : a.value? s = some value)
    (hfile : ∀ path, a.file = some path → path.isEmpty = false) : s.Sets value (a.part s) := by
  cases s
  case query | result | regex | warn | crit | host | database | user | pass =>
    obtain ⟨v, hv, rfl⟩ := Option.map_eq_some_iff.mp hvalue
    rw [part, hv]
    constructor
    exact RawText.toString?_ofString v
  case file =>
    have hpath : a.file = some value := hvalue
    rw [part, hpath]
    exact .file (hfile value hpath)
  case port =>
    obtain ⟨p, hp, rfl⟩ := Option.map_eq_some_iff.mp hvalue
    rw [part, hp]
    refine .port (RawText.toString?_ofString _) ?_
    rw [String.toList_ofList]
    exact integer_toDigits p.toNat
  case logFormat =>
    obtain ⟨f, hf, rfl⟩ := Option.map_eq_some_iff.mp hvalue
    rw [part, hf]
    exact .logFormat (RawText.toString?_ofString _) (parse_name f)
  case verbose | help => cases hvalue

theorem argument?_of_ne (hs : s ≠ .verbose) : a.argument? s = (a.value? s).map s.argument := by
  cases s <;> first | rfl | exact absurd rfl hs

theorem writes_part (harg : a.argument? s = some arg)
    (hfile : ∀ path, a.file = some path → path.isEmpty = false) : s.Writes arg (a.part s) := by
  by_cases hs : s = .verbose
  · subst hs
    obtain ⟨hverbose, harg⟩ := Option.ite_none_right_eq_some.mp harg
    obtain rfl := Option.some.inj harg
    rw [part, hverbose]
    exact .verbose
  · rw [argument?_of_ne hs, Option.map_eq_some_iff] at harg
    obtain ⟨value, hvalue, rfl⟩ := harg
    exact .value (sets_part hvalue hfile)

/-- Where nothing is written, nothing is set. -/
theorem part_of_argument? (harg : a.argument? s = .none) (hhelp : a.help = false) :
    a.part s = none := by
  by_cases hs : s = .verbose
  · subst hs
    rw [argument?, ite_eq_right_iff] at harg
    have hverbose : a.verbose = false := Bool.eq_false_iff.mpr fun h => nomatch harg h
    rw [part, hverbose]
    rfl
  · rw [argument?_of_ne hs, Option.map_eq_none_iff] at harg
    cases s
    case verbose => exact absurd rfl hs
    case help => rw [part, hhelp]; rfl
    case file => rw [part, show a.file = .none from harg]; rfl
    all_goals rw [part, Option.map_eq_none_iff.mp harg]; rfl

/-- A line of some switches writes what they set. -/
theorem writtenAs_lineOf (hhelp : a.help = false)
    (hfile : ∀ path, a.file = some path → path.isEmpty = false) {ss : List Switch}
    (hss : ss.Nodup) : (a.parts ss).WrittenAs (a.lineOf ss) := by
  -- A switch that is not used adds nothing to either side, and one that is used adds its
  -- part, which is not among those of the other switches.
  induction ss with
  | nil => exact .nil
  | cons s ss ih =>
    obtain ⟨hs, hss⟩ := List.nodup_cons.mp hss
    change ((a.part s).union (a.parts ss)).WrittenAs _
    rw [lineOf, List.filterMap_cons]
    cases harg : a.argument? s with
    | none =>
      rw [part_of_argument? harg hhelp, none_union]
      exact ih hss
    | some arg =>
      have hrest : (a.parts ss).uses s = false :=
        Bool.eq_false_iff.mpr fun h => hs ((uses_parts a ss s).mp h).1
      exact .cons (writes_part harg hfile) (ih hss) hrest

/-- **All arguments have a line**, if they do not ask for help and a file has a name. -/
theorem writtenAs_line (hhelp : a.help = false)
    (hfile : ∀ path, a.file = some path → path.isEmpty = false) : a.WrittenAs a.line := by
  have hline := writtenAs_lineOf hhelp hfile (show Switch.all.Nodup by decide)
  rwa [parts_all] at hline

example : line { none with query := some "SHOW", port := some 0, verbose := true } =
    [.ofString "--query=SHOW", .ofString "--port=0", .ofString "--verbose"] := by
  decide +kernel

end Arguments

end SqlProbe
