import SqlProbe.Proofs.Attempts
import SqlProbe.Switches.Parser

/-!
# What several uses of switches set together

A command line is a list of uses of switches, and using one sets one part of the
arguments, which must not have been set before. So what a list of uses sets is the
*union* of what each of them sets by itself (`Arguments.union`), and it sets anything at
all only if no two of them set the same part (`Arguments.Disjoint`).

The law that carries this is `Arguments.useAll_eq_ok_iff`: to go on from some arguments
with a list of uses is to read the list by itself and to join the two, provided that
they are disjoint. A union of disjoint arguments is the same either way round
(`Arguments.union_comm`).
-/

namespace SqlProbe

/-- A use of a switch: the switch, and its value, which is empty if it takes none. -/
abbrev Use := Switch × RawText

namespace Arguments

variable {a b c : Arguments} {s : Switch} {value : RawText}

/-- What two command lines set together. Where both set something, the first one wins. -/
def union (a b : Arguments) : Arguments where
  query := a.query.or b.query
  result := a.result.or b.result
  regex := a.regex.or b.regex
  warn := a.warn.or b.warn
  crit := a.crit.or b.crit
  file := a.file.or b.file
  host := a.host.or b.host
  port := a.port.or b.port
  database := a.database.or b.database
  user := a.user.or b.user
  pass := a.pass.or b.pass
  logFormat := a.logFormat.or b.logFormat
  verbose := a.verbose || b.verbose
  help := a.help || b.help

/-- No switch is used in both. -/
def Disjoint (a b : Arguments) : Prop := ∀ s, ¬ (a.uses s = true ∧ b.uses s = true)

/-! ### Unions -/

@[simp] theorem uses_none (s : Switch) : none.uses s = false := by cases s <;> rfl

@[simp] theorem uses_union (a b : Arguments) (s : Switch) :
    (a.union b).uses s = (a.uses s || b.uses s) := by
  cases s <;> simp only [uses, union, Option.isSome_or]

@[simp] theorem none_union (a : Arguments) : none.union a = a := rfl

@[simp] theorem union_none (a : Arguments) : a.union none = a := by
  simp only [union, none, Option.or_none, Bool.or_false]

theorem union_assoc (a b c : Arguments) : (a.union b).union c = a.union (b.union c) := by
  simp only [union, Option.or_assoc, Bool.or_assoc]

theorem Disjoint.symm (h : a.Disjoint b) : b.Disjoint a := fun s hs => h s hs.symm

/-- Where no switch is used in both, it does not matter which of them wins. -/
theorem union_comm (h : a.Disjoint b) : a.union b = b.union a := by
  have hor : ∀ {α : Type} {x y : Option α}, ¬ (x.isSome = true ∧ y.isSome = true) →
      x.or y = y.or x := by
    intro α x y hxy
    cases x <;> cases y <;> first | rfl | exact absurd ⟨rfl, rfl⟩ hxy
  simp only [union, hor (h .query), hor (h .result), hor (h .regex), hor (h .warn), hor (h .crit),
    hor (h .file), hor (h .host), hor (h .port), hor (h .database), hor (h .user), hor (h .pass),
    hor (h .logFormat), Bool.or_comm]

theorem none_disjoint (a : Arguments) : none.Disjoint a := fun s h => by simp at h

theorem disjoint_union_iff : a.Disjoint (b.union c) ↔ a.Disjoint b ∧ a.Disjoint c := by
  simp only [Disjoint, uses_union, Bool.or_eq_true, and_or_left, not_or, forall_and]

theorem union_disjoint_iff : (a.union b).Disjoint c ↔ a.Disjoint c ∧ b.Disjoint c := by
  simp only [Disjoint, uses_union, Bool.or_eq_true, or_and_right, not_or, forall_and]

/-! ### One use -/

/-- What a switch sets is set beside the rest. -/
theorem setValue_eq (h : a.uses s = false) (value : RawText) :
    a.setValue s value = (none.setValue s value).map a.union := by
  cases s
  case query | result | regex | warn | crit | host | database | user | pass =>
    rw [setValue, setValue]
    cases textOf value with
    | error e => rfl
    | ok t =>
      simp only [uses, Option.isSome_eq_false_iff, Option.isNone_iff_eq_none] at h
      simp [union, none, Except.map, h]
  case file =>
    simp only [uses, Option.isSome_eq_false_iff, Option.isNone_iff_eq_none] at h
    rw [setValue, setValue]
    split
    · rfl
    · simp [union, none, Except.map, h]
  case port =>
    simp only [uses, Option.isSome_eq_false_iff, Option.isNone_iff_eq_none] at h
    rw [setValue, setValue]
    cases textOf value with
    | error e => rfl
    | ok t => cases ht : Port.parse t <;> simp [union, none, Except.map, h, ht]
  case logFormat =>
    simp only [uses, Option.isSome_eq_false_iff, Option.isNone_iff_eq_none] at h
    rw [setValue, setValue]
    cases textOf value with
    | error e => rfl
    | ok t => cases ht : LogFormat.parse t <;> simp [union, none, Except.map, h, ht]
  case verbose | help => simp [setValue, union, none, Except.map]

/-- A switch sets one thing, which is its own. -/
theorem uses_setValue (h : none.setValue s value = .ok b) (s' : Switch) :
    b.uses s' = true ↔ s' = s := by
  cases s
  case query | result | regex | warn | crit | host | database | user | pass =>
    rw [setValue] at h
    cases ht : textOf value with
    | error e => rw [ht] at h; cases h
    | ok t => rw [ht] at h; cases h; cases s' <;> simp [uses, none]
  case file =>
    rw [setValue] at h
    split at h
    · cases h
    · cases h; cases s' <;> simp [uses, none]
  case port | logFormat =>
    rw [setValue] at h
    split at h
    · cases h
    · split at h
      · cases h; cases s' <;> simp [uses, none]
      · cases h
  case verbose | help => cases h; cases s' <;> simp [uses, none]

/-- **One use.** The switch must not have been used, and is then used by itself. -/
theorem use_eq_ok_iff : a.use s value = .ok c ↔
    a.uses s = false ∧ ∃ b, none.setValue s value = .ok b ∧ c = a.union b := by
  rw [use]
  cases hs : a.uses s with
  | true => simp
  | false =>
    simp only [Bool.false_eq_true, if_false, true_and, setValue_eq hs]
    cases none.setValue s value <;> simp [Except.map, eq_comm]

/-- A switch that has not been used is used by nothing that it sets. -/
theorem disjoint_setValue_iff (h : none.setValue s value = .ok b) :
    a.Disjoint b ↔ a.uses s = false := by
  constructor
  · intro hab
    have hs := hab s
    rwa [(uses_setValue h s).mpr rfl, and_iff_left rfl, Bool.not_eq_true] at hs
  · rintro hs s' ⟨ha, hb⟩
    rw [(uses_setValue h s').mp hb, hs] at ha
    cases ha

/-! ### A list of uses -/

/-- The arguments with some more switches, used one after the other. -/
def useAll (a : Arguments) (uses : List Use) : Except UsageError Arguments :=
  uses.foldlM (fun a u => a.use u.1 u.2) a

@[simp] theorem useAll_nil (a : Arguments) : a.useAll [] = .ok a := rfl

theorem useAll_cons_eq_ok_iff {us : List Use} : a.useAll ((s, value) :: us) = .ok c ↔
    ∃ b, a.use s value = .ok b ∧ b.useAll us = .ok c :=
  bind_eq_ok_iff

theorem useAll_singleton (a : Arguments) (s : Switch) (value : RawText) :
    a.useAll [(s, value)] = a.use s value := by
  change (a.use s value).bind Except.ok = a.use s value
  cases a.use s value <;> rfl

theorem useAll_append_eq_ok_iff {us vs : List Use} : a.useAll (us ++ vs) = .ok c ↔
    ∃ b, a.useAll us = .ok b ∧ b.useAll vs = .ok c := by
  rw [useAll, List.foldlM_append]
  exact bind_eq_ok_iff

/-- **Going on with a list of uses** is reading the list by itself and joining the two, if
they are disjoint. -/
theorem useAll_eq_ok_iff {us : List Use} : a.useAll us = .ok c ↔
    ∃ b, none.useAll us = .ok b ∧ a.Disjoint b ∧ c = a.union b := by
  induction us generalizing a c with
  | nil =>
    have hnone : a.Disjoint none := (none_disjoint a).symm
    simp [hnone, eq_comm]
  | cons u us ih =>
    obtain ⟨s, value⟩ := u
    simp only [useAll_cons_eq_ok_iff, use_eq_ok_iff, uses_none, true_and, none_union]
    constructor
    · rintro ⟨_, ⟨hs, first, hfirst, rfl⟩, hrest⟩
      -- Reading the rest from what is set so far is reading it by itself, twice over.
      obtain ⟨rest, hnone, hdisjoint, rfl⟩ := ih.mp hrest
      obtain ⟨har, hfr⟩ := union_disjoint_iff.mp hdisjoint
      refine ⟨first.union rest, ⟨first, ⟨first, hfirst, rfl⟩, ih.mpr ⟨rest, hnone, hfr, rfl⟩⟩, ?_,
        union_assoc ..⟩
      exact disjoint_union_iff.mpr ⟨(disjoint_setValue_iff hfirst).mpr hs, har⟩
    · rintro ⟨_, ⟨first, ⟨_, hfirst, rfl⟩, hrest⟩, hdisjoint, rfl⟩
      obtain ⟨rest, hnone, hfr, rfl⟩ := ih.mp hrest
      obtain ⟨haf, har⟩ := disjoint_union_iff.mp hdisjoint
      refine ⟨a.union first, ⟨(disjoint_setValue_iff hfirst).mp haf, first, hfirst, rfl⟩, ?_⟩
      exact ih.mpr ⟨rest, hnone, union_disjoint_iff.mpr ⟨har, hfr⟩, (union_assoc ..).symm⟩

/-- What a list of uses sets is what it has uses for. -/
theorem uses_useAll {us : List Use} (h : none.useAll us = .ok c) (s : Switch) :
    c.uses s = true ↔ s ∈ us.map Prod.fst := by
  induction us generalizing c with
  | nil =>
    cases h
    simp
  | cons u us ih =>
    obtain ⟨first, hfirst, hrest⟩ := useAll_cons_eq_ok_iff.mp h
    obtain ⟨-, _, hset, rfl⟩ := use_eq_ok_iff.mp hfirst
    obtain ⟨rest, hnone, -, rfl⟩ := useAll_eq_ok_iff.mp hrest
    rw [uses_union, Bool.or_eq_true, none_union, uses_setValue hset, ih hnone, List.map_cons,
      List.mem_cons]

/-- Two lists of uses, one after the other, are read by themselves and joined. -/
theorem useAll_append_iff_union {us vs : List Use} : none.useAll (us ++ vs) = .ok c ↔
    ∃ a b, none.useAll us = .ok a ∧ none.useAll vs = .ok b ∧ a.Disjoint b ∧ c = a.union b := by
  rw [useAll_append_eq_ok_iff]
  refine exists_congr fun a => ?_
  rw [exists_and_left, @useAll_eq_ok_iff a]

end Arguments

end SqlProbe
