import Mathlib.Data.List.Perm.Basic
import SqlProbe.Proofs.Switches.Uses

/-!
# Command lines compose

Two command lines that are accepted by themselves can be written one after the other.
The result says what the first one says and then what the second one says
(`Use.ofLine?_append`), and so it sets the union of what they set if no switch is in
both, and is refused if one is (`Arguments.parse_append`). The one exception is a bare
`--` at the end of the first line, after which nothing is accepted
(`Arguments.escape_not_swapped`).

That no argument of the second line can become the value of a switch of the first one is
a fact about the points between two arguments. Two lines in progress are *alike* if the
same switch waits in both, or none, and both are closed, or neither. Where an accepted
line ends without a bare `--`, it is like a line that has not begun
(`Arguments.alike_start`), and the same arguments keep alike lines alike
(`Progress.Alike.run`).
-/

namespace SqlProbe

namespace Use

variable {arg value : RawText} {pre post rest : List RawText} {us : List Use} {s : Switch}

theorem ne_escape_of_ofArgument? {said : Said} (h : ofArgument? arg = some said) :
    arg ≠ .escape := by
  rintro rfl
  cases h

theorem ofLine?_cons (h : ofArgument? arg = some ⟨us, none⟩) :
    ofLine? (arg :: rest) = prepend us (ofLine? rest) := by
  rw [ofLine?, if_neg (ne_escape_of_ofArgument? h), h]

theorem ofLine?_cons_value (h : ofArgument? arg = some ⟨us, some s⟩)
    (ha : s.admits value = true) :
    ofLine? (arg :: value :: rest) = prepend (us ++ [(s, value)]) (ofLine? rest) := by
  rw [ofLine?, if_neg (ne_escape_of_ofArgument? h), h]
  exact if_pos ha

/-- **Two lines** say one after the other what each of them says, unless the first one
ends in a bare `--`. -/
theorem ofLine?_append (h : ofLine? pre = some (us, false)) (post : List RawText) :
    ofLine? (pre ++ post) = prepend us (ofLine? post) := by
  fun_induction ofLine? pre generalizing us
  case case1 =>
    cases h
    rw [List.nil_append, prepend_nil]
  case case5 arg rest _ us' hsaid ih =>
    obtain ⟨vs, hrest, rfl⟩ := prepend_eq_some_iff.mp h
    rw [List.cons_append, ofLine?_cons hsaid, ih hrest, ← prepend_append]
  case case7 arg _ us' s hsaid value rest ha ih =>
    obtain ⟨vs, hrest, rfl⟩ := prepend_eq_some_iff.mp h
    rw [List.cons_append, List.cons_append, ofLine?_cons_value hsaid ha, ih hrest,
      ← prepend_append]
  all_goals cases h

/-- Where a line says that it is closed, this is said by its last argument. -/
theorem ofLine?_closed (h : ofLine? pre = some (us, true)) :
    ∃ init, pre = init ++ [.escape] ∧ ofLine? init = some (us, false) := by
  fun_induction ofLine? pre generalizing us
  case case2 rest hrest =>
    obtain rfl : rest = [] := List.isEmpty_iff.mp hrest
    cases h
    exact ⟨[], rfl, rfl⟩
  case case5 arg rest _ us' hsaid ih =>
    obtain ⟨vs, hrest, rfl⟩ := prepend_eq_some_iff.mp h
    obtain ⟨init, rfl, hinit⟩ := ih hrest
    refine ⟨arg :: init, rfl, ?_⟩
    rw [ofLine?_cons hsaid]
    exact prepend_eq_some_iff.mpr ⟨vs, hinit, rfl⟩
  case case7 arg _ us' s hsaid value rest ha ih =>
    obtain ⟨vs, hrest, rfl⟩ := prepend_eq_some_iff.mp h
    obtain ⟨init, rfl, hinit⟩ := ih hrest
    refine ⟨arg :: value :: init, rfl, ?_⟩
    rw [ofLine?_cons_value hsaid ha]
    exact prepend_eq_some_iff.mpr ⟨vs, hinit, rfl⟩
  all_goals cases h

end Use

/-! ### Points between two arguments -/

namespace Progress

variable {q q' r r' : Progress} {arg : RawText} {args : List RawText}

/-- The switch that waits after an argument, given the one that waits before it. -/
def waitingAfter (waiting : Option Switch) (arg : RawText) : Option Switch :=
  match waiting with
  | some s => if s.admits arg then none else some s
  | none => (Use.ofArgument? arg).bind Said.waiting

/-- Whether an argument closes a line. -/
def closes (waiting : Option Switch) (arg : RawText) : Bool :=
  match waiting with
  | some s => !s.admits arg
  | none => arg = .escape

/-- A `--` that closes a line is no value of the switch that waits. -/
theorem not_admits_escape {s : Switch} (hw : r.waiting? = some s) (ht : r.takesAny = false) :
    s.admits .escape = false := by
  have hs : s.takesHyphen = false := by simpa [takesAny, hw] using ht
  rw [Switch.admits, hs]
  rfl

theorem Step.waiting? (h : r.Step arg r') : r'.waiting? = waitingAfter r.waiting? arg := by
  cases h with
  | value hs ha =>
    rw [hs, waitingAfter, if_pos ha]
    obtain ⟨done, _ | ⟨s, _ | value⟩, closed⟩ := r <;> rfl
  | escape harg ht =>
    subst harg
    change r.waiting? = _
    cases hw : r.waiting? with
    | none => rfl
    | some s =>
      rw [waitingAfter, not_admits_escape hw ht]
      rfl
  | @switches said _ hsaid hb =>
    obtain ⟨hw, a, -, rfl⟩ := hb
    rw [hw, waitingAfter, hsaid]
    obtain ⟨us, _ | s⟩ := said <;> rfl

theorem Step.closed (h : r.Step arg r') : r'.closed = (r.closed || closes r.waiting? arg) := by
  cases h with
  | value hs ha =>
    rw [hs, closes, ha, Bool.not_true, Bool.or_false]
    rfl
  | escape harg ht =>
    subst harg
    change true = _
    cases hw : r.waiting? with
    | none => exact (Bool.or_true _).symm
    | some s => rw [closes, not_admits_escape hw ht, Bool.not_false, Bool.or_true]
  | switches hsaid hb =>
    have harg := Use.ne_escape_of_ofArgument? hsaid
    obtain ⟨hw, a, -, rfl⟩ := hb
    simp [hw, closes, harg]

/-- Two lines in progress take what comes for the same thing. -/
def Alike (q r : Progress) : Prop := q.waiting? = r.waiting? ∧ q.closed = r.closed

/-- What an argument is taken for depends on nothing else. -/
theorem Alike.step (h : q.Alike r) (hq : q.step arg = .ok q') (hr : r.step arg = .ok r') :
    q'.Alike r' := by
  obtain ⟨-, hq⟩ := step_eq_ok_iff.mp hq
  obtain ⟨-, hr⟩ := step_eq_ok_iff.mp hr
  exact ⟨by rw [hq.waiting?, hr.waiting?, h.1], by rw [hq.closed, hr.closed, h.1, h.2]⟩

/-- **Alike lines stay alike.** -/
theorem Alike.run (h : q.Alike r) (hq : args.foldlM Progress.step q = .ok q')
    (hr : args.foldlM Progress.step r = .ok r') : q'.Alike r' := by
  -- Both are read argument by argument, and being alike is what each of them keeps.
  induction args generalizing q r with
  | nil =>
    cases hq
    cases hr
    exact h
  | cons arg args ih =>
    obtain ⟨q₁, hq₁, hq⟩ := bind_eq_ok_iff.mp hq
    obtain ⟨r₁, hr₁, hr⟩ := bind_eq_ok_iff.mp hr
    exact ih (h.step hq₁ hr₁) hq hr

end Progress

/-! ### Two lines -/

namespace Arguments

variable {pre post : List RawText} {a b c : Arguments}

/-- A line ends in a `--` that is no value of a switch. -/
def EndsInEscape (args : List RawText) : Prop :=
  ∃ init, args = init ++ [.escape] ∧ ∃ a, parse init = .ok a

theorem endsInEscape_append_singleton_iff {arg : RawText} :
    EndsInEscape (pre ++ [arg]) ↔ arg = .escape ∧ ∃ a, parse pre = .ok a := by
  constructor
  · rintro ⟨init, h, hinit⟩
    obtain ⟨rfl, harg⟩ := List.append_inj' h rfl
    exact ⟨(List.cons.inj harg).1, hinit⟩
  · rintro ⟨rfl, hinit⟩
    exact ⟨pre, rfl, hinit⟩

/-- What an accepted line says that does not end in a bare `--`. -/
theorem exists_said (h : parse pre = .ok a) (hpre : ¬ EndsInEscape pre) :
    ∃ us, Use.ofLine? pre = some (us, false) ∧ none.useAll us = .ok a := by
  obtain ⟨us, closed, hline, hus⟩ := parse_eq_ok_iff.mp h
  cases closed with
  | false => exact ⟨us, hline, hus⟩
  | true =>
    obtain ⟨init, rfl, hinit⟩ := Use.ofLine?_closed hline
    exact absurd ⟨init, rfl, a, parse_eq_ok_iff.mpr ⟨us, false, hinit, hus⟩⟩ hpre

/-- **One line after another.** It is accepted exactly if both are and no switch is in
both, and sets what the two of them set. -/
theorem parse_append_eq_ok_iff (ha : parse pre = .ok a) (hpre : ¬ EndsInEscape pre) :
    parse (pre ++ post) = .ok c ↔ ∃ b, parse post = .ok b ∧ a.Disjoint b ∧ c = a.union b := by
  obtain ⟨us, hline, hus⟩ := exists_said ha hpre
  rw [parse_eq_ok_iff, Use.ofLine?_append hline]
  constructor
  · rintro ⟨_, closed, hsaid, h⟩
    obtain ⟨vs, hpost, rfl⟩ := Use.prepend_eq_some_iff.mp hsaid
    obtain ⟨a', b, ha', hb, hab, rfl⟩ := useAll_append_iff_union.mp h
    obtain rfl : a = a' := Except.ok.inj (hus.symm.trans ha')
    exact ⟨b, parse_eq_ok_iff.mpr ⟨vs, closed, hpost, hb⟩, hab, rfl⟩
  · rintro ⟨b, hb, hab, rfl⟩
    obtain ⟨vs, closed, hpost, hvs⟩ := parse_eq_ok_iff.mp hb
    refine ⟨us ++ vs, closed, Use.prepend_eq_some_iff.mpr ⟨vs, hpost, rfl⟩, ?_⟩
    exact useAll_append_iff_union.mpr ⟨a, b, hus, hvs, hab, rfl⟩

/-- Two lines at the front may change places. -/
theorem parse_append_left_comm {pre₁ pre₂ : List RawText}
    (ha : parse pre₁ = .ok a) (hpre₁ : ¬ EndsInEscape pre₁)
    (hb : parse pre₂ = .ok b) (hpre₂ : ¬ EndsInEscape pre₂) :
    parse (pre₁ ++ (pre₂ ++ post)) = .ok c ↔ parse (pre₂ ++ (pre₁ ++ post)) = .ok c := by
  have hswap : ∀ {a b : Arguments},
      (∃ d, (∃ e, parse post = .ok e ∧ b.Disjoint e ∧ d = b.union e) ∧
        a.Disjoint d ∧ c = a.union d) →
      ∃ d, (∃ e, parse post = .ok e ∧ a.Disjoint e ∧ d = a.union e) ∧
        b.Disjoint d ∧ c = b.union d := by
    rintro a b ⟨_, ⟨e, he, hbe, rfl⟩, h, rfl⟩
    obtain ⟨hab, hae⟩ := disjoint_union_iff.mp h
    refine ⟨a.union e, ⟨e, he, hae, rfl⟩, disjoint_union_iff.mpr ⟨hab.symm, hbe⟩, ?_⟩
    calc a.union (b.union e)
        = (a.union b).union e := (union_assoc ..).symm
      _ = (b.union a).union e := by rw [union_comm hab]
      _ = b.union (a.union e) := union_assoc ..
  simp only [parse_append_eq_ok_iff ha hpre₁, parse_append_eq_ok_iff hb hpre₂]
  exact ⟨hswap, hswap⟩

/-- **The order of lines at the front does not matter**, whatever follows them. -/
theorem parse_perm {lines lines' : List (List RawText)} (h : lines.Perm lines')
    (hlines : ∀ line ∈ lines, (∃ a, parse line = .ok a) ∧ ¬ EndsInEscape line)
    (post : List RawText) (c : Arguments) :
    parse (lines.flatten ++ post) = .ok c ↔ parse (lines'.flatten ++ post) = .ok c := by
  induction h generalizing c with
  | nil => exact Iff.rfl
  | cons line _ ih =>
    obtain ⟨⟨⟨a, ha⟩, hline⟩, hrest⟩ := List.forall_mem_cons.mp hlines
    rw [List.flatten_cons, List.flatten_cons, List.append_assoc, List.append_assoc,
      parse_append_eq_ok_iff ha hline, parse_append_eq_ok_iff ha hline]
    simp only [ih hrest]
  | swap line₁ line₂ lines =>
    obtain ⟨⟨⟨b, hb⟩, hline₂⟩, hrest⟩ := List.forall_mem_cons.mp hlines
    obtain ⟨⟨⟨a, ha⟩, hline₁⟩, -⟩ := List.forall_mem_cons.mp hrest
    simp only [List.flatten_cons, List.append_assoc]
    exact parse_append_left_comm hb hline₂ ha hline₁
  | trans h₁ h₂ ih₁ ih₂ =>
    exact (ih₁ hlines c).trans (ih₂ (fun line hline => hlines line (h₁.mem_iff.mpr hline)) c)

/-- An accepted line that does not end in a bare `--` is like one that has not begun. -/
theorem alike_start {r : Progress} (h : parse pre = .ok a) (hpre : ¬ EndsInEscape pre)
    (hr : pre.foldlM Progress.step .start = .ok r) : r.Alike .start := by
  obtain ⟨us, hline, hus⟩ := exists_said h hpre
  have hcomplete : Progress.start.complete pre = .ok ⟨a, .none, false⟩ :=
    (Progress.complete_eq_ok_iff rfl rfl).mpr ⟨us, hline, hus⟩
  rw [Progress.complete, hr] at hcomplete
  obtain ⟨hw, _, -, hq⟩ := Progress.finish_eq_ok_iff.mp hcomplete
  exact ⟨hw, (congrArg Progress.closed hq).symm⟩

/-- Every part at the front of an accepted line can be read. -/
theorem exists_foldlM_of_isPrefix {p : List RawText} (hb : parse post = .ok b) (hp : p <+: post) :
    ∃ r, p.foldlM Progress.step .start = .ok r := by
  obtain ⟨rest, rfl⟩ := hp
  rw [parse_eq, Progress.complete, List.foldlM_append] at hb
  obtain ⟨r, hr, -⟩ := map_eq_ok_iff.mp hb
  obtain ⟨q, hq, -⟩ := bind_eq_ok_iff.mp hr
  obtain ⟨r, hr, -⟩ := bind_eq_ok_iff.mp hq
  exact ⟨r, hr⟩

/-- The lines have no switch in common exactly if nothing is set in both. -/
theorem disjoint_iff_usedIn (ha : parse pre = .ok a) (hb : parse post = .ok b) :
    a.Disjoint b ↔ ∀ s, ¬ (UsedIn pre s ∧ UsedIn post s) := by
  simp only [Disjoint, usedIn_iff ha, usedIn_iff hb]

/-- **Command lines compose.** Let two lines be accepted, and the first one not end in a
bare `--`. If no switch is in both, then together they set what either of them sets, and
this the other way round too, unless the second one ends in a bare `--`. If a switch is
in both, they are refused. Wherever the second line is cut, the switch that waits is the
one that waits in the second line by itself, and none waits before it begins. And of any
number of such lines the order does not matter, whatever comes after them. -/
theorem parse_append (ha : parse pre = .ok a) (hb : parse post = .ok b)
    (hpre : ¬ EndsInEscape pre) :
    ((∀ s, ¬ (UsedIn pre s ∧ UsedIn post s)) →
      parse (pre ++ post) = .ok (a.union b) ∧
      (¬ EndsInEscape post → parse (post ++ pre) = .ok (a.union b))) ∧
    ((∃ s, UsedIn pre s ∧ UsedIn post s) → ∃ e, parse (pre ++ post) = .error e) ∧
    (∀ p, p <+: post → ∀ r, (pre ++ p).foldlM Progress.step .start = .ok r →
      ∃ r', p.foldlM Progress.step .start = .ok r' ∧ r.waiting? = r'.waiting?) ∧
    (∀ lines lines' : List (List RawText), lines.Perm lines' →
      (∀ line ∈ lines, (∃ a, parse line = .ok a) ∧ ¬ EndsInEscape line) →
      ∀ tail c, parse (lines.flatten ++ tail) = .ok c ↔ parse (lines'.flatten ++ tail) = .ok c) := by
  rw [← disjoint_iff_usedIn ha hb]
  refine ⟨fun hab => ⟨?_, fun hpost => ?_⟩, ?_, ?_, fun _ _ h hlines => parse_perm h hlines⟩
  · exact (parse_append_eq_ok_iff ha hpre).mpr ⟨b, hb, hab, rfl⟩
  · exact (parse_append_eq_ok_iff hb hpost).mpr ⟨a, ha, hab.symm, union_comm hab⟩
  · rintro ⟨s, hs⟩
    cases h : parse (pre ++ post) with
    | error e => exact ⟨e, rfl⟩
    | ok c =>
      obtain ⟨b', hb', hab, -⟩ := (parse_append_eq_ok_iff ha hpre).mp h
      obtain rfl : b = b' := Except.ok.inj (hb.symm.trans hb')
      exact absurd hs ((disjoint_iff_usedIn ha hb).mp hab s)
  · intro p hp r hr
    obtain ⟨r', hr'⟩ := exists_foldlM_of_isPrefix hb hp
    rw [List.foldlM_append] at hr
    obtain ⟨q, hq, hr⟩ := bind_eq_ok_iff.mp hr
    exact ⟨r', hr', ((alike_start ha hpre hq).run hr hr').1⟩

/-- The first line ends in a `--`, but not in a bare one. -/
theorem parse_append_value_escape :
    parse ([.ofString "-vq", .escape] ++ [.ofString "--host=db", .ofString "-w", .ofString "5"]) =
      .ok { none with verbose := true, query := some "--", host := some "db", warn := some "5" } := by
  have ha : parse ([.ofString "-vq"] ++ [.escape]) =
      .ok { none with verbose := true, query := some "--" } := rfl
  have hb : parse [.ofString "--host=db", .ofString "-w", .ofString "5"] =
      .ok { none with host := some "db", warn := some "5" } := rfl
  have hpre : ¬ EndsInEscape ([.ofString "-vq"] ++ [.escape]) := by
    rw [endsInEscape_append_singleton_iff]
    rintro ⟨-, a, hvq⟩
    cases hvq
  have hdisjoint : ∀ s, ¬ (UsedIn ([.ofString "-vq"] ++ [.escape]) s ∧
      UsedIn [.ofString "--host=db", .ofString "-w", .ofString "5"] s) := by
    rw [← disjoint_iff_usedIn ha hb]
    intro s
    cases s <;> decide
  exact ((parse_append ha hb hpre).1 hdisjoint).1

/-- A bare `--` may stand last, but not first. -/
theorem escape_not_swapped :
    parse [.ofString "-v"] = .ok { none with verbose := true } ∧ parse [.escape] = .ok none ∧
      ¬ EndsInEscape [.ofString "-v"] ∧
      (∀ s, ¬ (UsedIn [.ofString "-v"] s ∧ UsedIn [.escape] s)) ∧
      parse ([.ofString "-v"] ++ [.escape]) = .ok { none with verbose := true } ∧
      parse ([.escape] ++ [.ofString "-v"]) = .error (.unexpectedArgument "-v") := by
  have hpre : ¬ EndsInEscape ([] ++ [.ofString "-v"]) := by
    rw [endsInEscape_append_singleton_iff]
    rintro ⟨harg, -⟩
    cases harg
  have hdisjoint : Disjoint { none with verbose := true } none := (none_disjoint _).symm
  exact ⟨rfl, rfl, hpre, (disjoint_iff_usedIn rfl rfl).mp hdisjoint, rfl, rfl⟩

end Arguments

end SqlProbe
