import SqlProbe.Proofs.Switches.Union

/-!
# What a command line says

A command line is read one argument at a time, and what a switch sets may be settled
only when a later one begins. What it *says* can be told without any of this. An
argument by itself says which uses of switches it completes and whether it leaves a
switch open (`Use.ofArgument?`); a line says the uses of its arguments, where the
argument after an open switch is its value, and whether it ends in a bare `--`
(`Use.ofLine?`).

The two are tied together in three steps. `Progress.Step` lists the three things that an
argument can do to a line in progress, and `Progress.step_eq_ok_iff` says that there is
nothing else. `Progress.complete_eq_ok_iff` follows a line to its end, from any point
between two arguments. Hence a line is accepted exactly if it says something and all
that it says can be set, and then this is what it sets (`Arguments.parse_eq_ok_iff`). A
switch is then used on the line, in whatever spelling, if and only if it has set
something (`Arguments.usedIn_iff`).
-/

namespace SqlProbe

/-- The argument that closes a line. -/
def RawText.escape : RawText := ⟨[.char '-', .char '-']⟩

/-- Whether an argument starts with a hyphen and has more to it. -/
def RawText.hyphenLed (arg : RawText) : Bool :=
  match arg.pieces with
  | .char '-' :: _ :: _ => true
  | _ => false

/-- Whether a waiting switch takes an argument as its value. -/
def Switch.admits (s : Switch) (arg : RawText) : Bool := s.takesHyphen || !arg.hyphenLed

/-! ### Arguments by themselves -/

/-- What an argument says. -/
structure Said where
  /-- The uses of switches that it completes. -/
  uses : List Use
  /-- The switch that it leaves open, to take the next argument as its value. -/
  waiting : Option Switch

namespace Use

/-- What a long switch says, given what follows its two hyphens. -/
def ofLong? (body : List RawPiece) : Option Said :=
  let name : RawText := ⟨body.takeWhile (· != .char '=')⟩
  let value : Option RawText :=
    match body.dropWhile (· != .char '=') with
    | [] => none
    | _ :: rest => some ⟨rest⟩
  match name.toString?.bind Switch.ofLongName? with
  | none => none
  | some s =>
    if s.takesValue then
      match value with
      | some v => some ⟨[(s, v)], none⟩
      | none => some ⟨[], some s⟩
    else
      match value with
      | some _ => none
      | none => some ⟨[(s, ⟨[]⟩)], none⟩

/-- What a cluster of letters says. -/
def ofCluster? : List RawPiece → Option Said
  | [] => some ⟨[], none⟩
  | .broken _ :: _ => none
  | .char c :: rest =>
    match Switch.ofLetter? c with
    | none => none
    | some s =>
      if s.takesValue then
        match Progress.attached? rest with
        | some v => some ⟨[(s, v)], none⟩
        | none => some ⟨[], some s⟩
      else (ofCluster? rest).map fun said => ⟨(s, ⟨[]⟩) :: said.uses, said.waiting⟩

/-- What an argument says that is no value. -/
def ofArgument? (arg : RawText) : Option Said :=
  match arg.pieces with
  | [.char '-', .char '-'] => none
  | .char '-' :: .char '-' :: body => ofLong? body
  | [.char '-'] => none
  | .char '-' :: letters => ofCluster? letters
  | _ => none

/-- What a line says after some uses, given what the rest of it says. -/
def prepend (us : List Use) (line : Option (List Use × Bool)) : Option (List Use × Bool) :=
  line.map fun said => (us ++ said.1, said.2)

/-- What a line says: its uses, and whether it ends in a bare `--`. -/
def ofLine? : List RawText → Option (List Use × Bool)
  | [] => some ([], false)
  | arg :: rest =>
    if arg = .escape then if rest.isEmpty then some ([], true) else none
    else
      match ofArgument? arg with
      | none => none
      | some ⟨us, none⟩ => prepend us (ofLine? rest)
      | some ⟨us, some s⟩ =>
        match rest with
        | [] => none
        | value :: rest =>
          if s.admits value then prepend (us ++ [(s, value)]) (ofLine? rest) else none

variable {us vs : List Use} {line : Option (List Use × Bool)} {closed : Bool}

@[simp] theorem prepend_nil : prepend [] line = line := by cases line <;> rfl

theorem prepend_append : prepend (us ++ vs) line = prepend us (prepend vs line) := by
  cases line with
  | none => rfl
  | some said => simp [prepend]

theorem prepend_eq_some_iff {ws : List Use} :
    prepend us line = some (ws, closed) ↔ ∃ vs, line = some (vs, closed) ∧ ws = us ++ vs := by
  rw [prepend, Option.map_eq_some_iff]
  constructor
  · rintro ⟨⟨vs, _⟩, hline, h⟩
    obtain ⟨rfl, rfl⟩ := Prod.mk.inj h
    exact ⟨vs, hline, rfl⟩
  · rintro ⟨vs, hline, rfl⟩
    exact ⟨_, hline, rfl⟩

end Use

/-! ### One argument of a line -/

namespace Progress

open Arguments (useAll)

variable {r r' : Progress} {s : Switch} {arg : RawText} {us : List Use} {w : Option Switch}

/-- The use that is complete but not examined yet, if there is one. -/
def pending (r : Progress) : List Use :=
  match r.opened with
  | some (s, some value) => [(s, value)]
  | _ => []

/-- Some switches begin: the use before them is examined, and then their own. -/
def Begins (r : Progress) (said : Said) (r' : Progress) : Prop :=
  r.waiting? = none ∧ ∃ a, r.done.useAll (r.pending ++ said.uses) = .ok a ∧
    r' = ⟨a, said.waiting.map fun s => (s, none), r.closed⟩

theorem begins_start_iff {a : Arguments} {closed : Bool} {said : Said} :
    Begins ⟨a, none, closed⟩ said r' ↔
      ∃ b, a.useAll said.uses = .ok b ∧ r' = ⟨b, said.waiting.map fun s => (s, none), closed⟩ := by
  rw [Begins, pending, List.nil_append]
  exact and_iff_right rfl

theorem Begins.opened (h : r.Begins ⟨us, none⟩ r') : r'.opened = none := by
  obtain ⟨-, a, -, rfl⟩ := h
  rfl

/-- Switches can begin in two parts, of which the first leaves none open. -/
theorem begins_append_iff {vs : List Use} :
    r.Begins ⟨us ++ vs, w⟩ r' ↔ ∃ q, r.Begins ⟨us, none⟩ q ∧ q.Begins ⟨vs, w⟩ r' := by
  constructor
  · rintro ⟨hw, a, ha, rfl⟩
    rw [← List.append_assoc, Arguments.useAll_append_eq_ok_iff] at ha
    obtain ⟨b, hb, ha⟩ := ha
    exact ⟨⟨b, none, r.closed⟩, ⟨hw, b, hb, rfl⟩, begins_start_iff.mpr ⟨a, ha, rfl⟩⟩
  · rintro ⟨_, ⟨hw, b, hb, rfl⟩, hq⟩
    obtain ⟨a, ha, rfl⟩ := begins_start_iff.mp hq
    refine ⟨hw, a, ?_, rfl⟩
    rw [← List.append_assoc, Arguments.useAll_append_eq_ok_iff]
    exact ⟨b, hb, ha⟩

theorem finish_eq_ok_iff : r.finish = .ok r' ↔ r.Begins ⟨[], none⟩ r' := by
  obtain ⟨done, opened, closed⟩ := r
  rcases opened with _ | ⟨s, _ | value⟩
  · simp [finish, Begins, waiting?, pending, eq_comm]
  · -- A switch without its value cannot be finished.
    exact iff_of_false (fun h => nomatch h) (fun h => nomatch h.1)
  · rw [finish, map_eq_ok_iff, Begins, pending, List.append_nil, Arguments.useAll_singleton]
    exact (and_iff_right rfl).symm

/-- Once the use before is examined, no switch is open. -/
theorem finish_bind_eq_ok_iff {g : Progress → Except UsageError Progress}
    (hg : ∀ a closed, g ⟨a, none, closed⟩ = .ok r' ↔ Begins ⟨a, none, closed⟩ ⟨us, w⟩ r') :
    r.finish.bind g = .ok r' ↔ r.Begins ⟨us, w⟩ r' := by
  have hparts : r.Begins ⟨us, w⟩ r' ↔ ∃ q, r.Begins ⟨[], none⟩ q ∧ q.Begins ⟨us, w⟩ r' := by
    rw [← begins_append_iff, List.nil_append]
  rw [bind_eq_ok_iff, hparts]
  simp only [finish_eq_ok_iff]
  refine exists_congr fun q => and_congr_right ?_
  rintro ⟨-, a, -, rfl⟩
  exact hg a r.closed

theorem beginValue_none_eq_ok_iff : r.beginValue s none = .ok r' ↔ r.Begins ⟨[], some s⟩ r' :=
  finish_bind_eq_ok_iff fun a closed => by
    rw [begins_start_iff, Arguments.useAll_nil]
    simp [eq_comm]

theorem beginValue_some_eq_ok_iff {value : RawText} :
    r.beginValue s (some value) = .ok r' ↔ r.Begins ⟨[(s, value)], none⟩ r' :=
  finish_bind_eq_ok_iff fun a closed => by
    rw [begins_start_iff, Arguments.useAll_singleton]
    exact map_eq_ok_iff

theorem beginFlag_eq_ok_iff : r.beginFlag s = .ok r' ↔ r.Begins ⟨[(s, ⟨[]⟩)], none⟩ r' :=
  finish_bind_eq_ok_iff fun a closed => by
    rw [begins_start_iff, Arguments.useAll_singleton]
    exact map_eq_ok_iff

theorem long_eq_ok_iff {body : List RawPiece} :
    r.long body = .ok r' ↔ ∃ said, Use.ofLong? body = some said ∧ r.Begins said r' := by
  simp only [long, Use.ofLong?]
  cases (⟨body.takeWhile (· != .char '=')⟩ : RawText).toString?.bind Switch.ofLongName? with
  | none => simp
  | some s =>
    cases hvalue : s.takesValue <;> cases body.dropWhile (· != .char '=') <;>
      simp [hvalue, beginValue_none_eq_ok_iff, beginValue_some_eq_ok_iff, beginFlag_eq_ok_iff]

/-- A cluster is read letter by letter. The first of them makes the use before be
examined, which an empty cluster would not do. -/
theorem cluster_eq_ok_iff {letters : List RawPiece} (h : r.opened = none ∨ letters ≠ []) :
    r.cluster letters = .ok r' ↔ ∃ said, Use.ofCluster? letters = some said ∧ r.Begins said r' := by
  induction letters generalizing r with
  | nil =>
    obtain ⟨done, opened, closed⟩ := r
    obtain rfl : opened = none := h.resolve_right (absurd rfl)
    simp [cluster, Use.ofCluster?, begins_start_iff, eq_comm]
  | cons piece rest ih =>
    cases piece with
    | broken bytes => simp [cluster, Use.ofCluster?]
    | char c =>
      cases hs : Switch.ofLetter? c with
      | none => simp [cluster, Use.ofCluster?, hs]
      | some s =>
        cases hvalue : s.takesValue with
        | true =>
          cases ha : attached? rest <;>
            simp [cluster, Use.ofCluster?, hs, hvalue, ha, beginValue_none_eq_ok_iff,
              beginValue_some_eq_ok_iff]
        | false =>
          have hbind : r.cluster (.char c :: rest) =
              (r.beginFlag s).bind fun q => q.cluster rest := by
            rw [cluster, hs]
            simp only [hvalue, Bool.false_eq_true, if_false]
            cases r.beginFlag s <;> rfl
          have hsaid : Use.ofCluster? (.char c :: rest) =
              (Use.ofCluster? rest).map fun said => ⟨(s, ⟨[]⟩) :: said.uses, said.waiting⟩ := by
            rw [Use.ofCluster?, hs]
            simp only [hvalue, Bool.false_eq_true, if_false]
          rw [hbind, hsaid, bind_eq_ok_iff]
          constructor
          · rintro ⟨q, hflag, hrest⟩
            rw [beginFlag_eq_ok_iff] at hflag
            obtain ⟨said, hs, hbegins⟩ := (ih (.inl hflag.opened)).mp hrest
            exact ⟨_, by rw [hs]; rfl, begins_append_iff.mpr ⟨q, hflag, hbegins⟩⟩
          · rintro ⟨_, hmap, hbegins⟩
            obtain ⟨said, hs, rfl⟩ := Option.map_eq_some_iff.mp hmap
            have hparts : r.Begins ⟨[(s, ⟨[]⟩)] ++ said.uses, said.waiting⟩ r' := hbegins
            obtain ⟨q, hflag, hrest⟩ := begins_append_iff.mp hparts
            exact ⟨q, beginFlag_eq_ok_iff.mpr hflag, (ih (.inl hflag.opened)).mpr ⟨said, hs, hrest⟩⟩

/-! ### Three things that an argument can do -/

/-- **One argument** of a line that is not closed. -/
inductive Step (r : Progress) (arg : RawText) : Progress → Prop where
  /-- The waiting switch takes it as its value. -/
  | value {s : Switch} (hs : r.waiting? = some s) (ha : s.admits arg = true) :
      Step r arg (r.supply arg)
  /-- It closes the line. -/
  | escape (harg : arg = .escape) (ht : r.takesAny = false) : Step r arg { r with closed := true }
  /-- Switches begin in it. -/
  | switches {said : Said} {r' : Progress} (hsaid : Use.ofArgument? arg = some said)
      (hb : r.Begins said r') : Step r arg r'

theorem hyphenLed_eq_true_iff : arg.hyphenLed = true ↔
    ∃ piece rest, arg.pieces = .char '-' :: piece :: rest := by
  rw [RawText.hyphenLed]
  split
  · next piece rest h => exact iff_of_true rfl ⟨piece, rest, h⟩
  · next h => exact iff_of_false Bool.false_ne_true fun ⟨piece, rest, h'⟩ => h piece rest h'

/-- What an argument does is told by its first two pieces. -/
theorem step_switches (hc : r.closed = false) (ht : r.takesAny = false)
    (harg : arg.hyphenLed = true) (hne : arg ≠ .escape) :
    r.step arg = .ok r' ↔ ∃ said, Use.ofArgument? arg = some said ∧ r.Begins said r' := by
  obtain ⟨pieces⟩ := arg
  obtain ⟨piece, rest, rfl⟩ := hyphenLed_eq_true_iff.mp harg
  by_cases hpiece : piece = .char '-'
  · subst hpiece
    cases rest with
    | nil => exact absurd rfl hne
    | cons piece rest =>
      rw [step, hc, ht]
      exact long_eq_ok_iff
  · have hstep : r.step ⟨.char '-' :: piece :: rest⟩ = r.cluster (piece :: rest) := by
      rw [step, hc, ht]
      simp [hpiece]
    have hsaid : Use.ofArgument? ⟨.char '-' :: piece :: rest⟩ = Use.ofCluster? (piece :: rest) := by
      rw [Use.ofArgument?]
      simp [hpiece]
    rw [hstep, hsaid]
    exact cluster_eq_ok_iff (.inr (List.cons_ne_nil piece rest))

/-- An argument that does not lead with a hyphen, or is nothing but one, says nothing. -/
theorem step_plain (hc : r.closed = false) (ht : r.takesAny = false)
    (harg : arg.hyphenLed = false) :
    r.step arg = r.plainArgument arg ∧ Use.ofArgument? arg = none := by
  obtain ⟨pieces⟩ := arg
  rw [step, hc, ht]
  rcases pieces with _ | ⟨piece, _ | ⟨second, rest⟩⟩
  · exact ⟨rfl, rfl⟩
  · by_cases hpiece : piece = .char '-'
    · subst hpiece
      exact ⟨rfl, rfl⟩
    · simp [Use.ofArgument?, hpiece]
  · have hpiece : piece ≠ .char '-' := by
      rintro rfl
      cases harg
    simp [Use.ofArgument?, hpiece]

/-- All three things do happen. -/
theorem Step.eq_ok (hc : r.closed = false) (h : r.Step arg r') : r.step arg = .ok r' := by
  cases h with
  | @value s hs ha =>
    cases ht : r.takesAny with
    | true =>
      rw [step, hc, ht]
      rfl
    | false =>
      -- The switch takes no hyphen, and so the argument has none.
      have hhyphen : s.takesHyphen = false := by simpa [takesAny, hs] using ht
      have harg : arg.hyphenLed = false := by simpa [Switch.admits, hhyphen] using ha
      rw [(step_plain hc ht harg).1, plainArgument, hs]
      rfl
  | escape harg ht =>
    rw [harg, step, hc, ht]
    rfl
  | @switches said r' hsaid hb =>
    have ht : r.takesAny = false := by
      rw [takesAny, hb.1]
      rfl
    have harg : arg.hyphenLed = true := by
      cases hplain : arg.hyphenLed with
      | true => rfl
      | false => cases (step_plain hc ht hplain).2.symm.trans hsaid
    have hescape : arg ≠ .escape := by
      rintro rfl
      cases hsaid
    exact (step_switches hc ht harg hescape).mpr ⟨said, hsaid, hb⟩

/-- Nothing else does. -/
theorem Step.of_eq_ok (hc : r.closed = false) (h : r.step arg = .ok r') : r.Step arg r' := by
  cases ht : r.takesAny with
  | true =>
    rw [step, hc, ht] at h
    cases h
    cases hw : r.waiting? with
    | none => rw [takesAny, hw] at ht; cases ht
    | some s =>
      have hhyphen : s.takesHyphen = true := by simpa [takesAny, hw] using ht
      exact .value hw (by rw [Switch.admits, hhyphen, Bool.true_or])
  | false =>
    by_cases hescape : arg = .escape
    · subst hescape
      rw [step, hc, ht] at h
      cases h
      exact .escape rfl ht
    · cases harg : arg.hyphenLed with
      | true =>
        obtain ⟨said, hsaid, hb⟩ := (step_switches hc ht harg hescape).mp h
        exact .switches hsaid hb
      | false =>
        rw [(step_plain hc ht harg).1, plainArgument] at h
        cases hw : r.waiting? with
        | none => rw [hw] at h; cases h
        | some s =>
          rw [hw] at h
          cases h
          exact .value hw (by rw [Switch.admits, harg, Bool.not_false, Bool.or_true])

/-- A closed line takes no further argument. -/
theorem step_of_closed (hc : r.closed = true) :
    r.step arg = .error (.unexpectedArgument arg.readable) := by
  rw [step, hc]
  rfl

theorem step_eq_ok_iff : r.step arg = .ok r' ↔ r.closed = false ∧ r.Step arg r' := by
  cases hc : r.closed with
  | true =>
    rw [step_of_closed hc]
    exact iff_of_false (fun h => nomatch h) (fun h => nomatch h.1)
  | false => exact ⟨fun h => ⟨rfl, .of_eq_ok hc h⟩, fun h => h.2.eq_ok hc⟩

/-! ### The rest of a line -/

/-- Reads the rest of a line to its end. -/
def complete (r : Progress) (args : List RawText) : Except UsageError Progress :=
  (args.foldlM step r).bind finish

theorem complete_nil_eq_ok_iff : r.complete [] = .ok r' ↔ r.Begins ⟨[], none⟩ r' :=
  finish_eq_ok_iff

theorem complete_cons_eq_ok_iff {args : List RawText} : r.complete (arg :: args) = .ok r' ↔
    ∃ q, r.closed = false ∧ r.Step arg q ∧ q.complete args = .ok r' := by
  have hbind : r.complete (arg :: args) = (r.step arg).bind fun q => q.complete args := by
    rw [complete, List.foldlM_cons]
    change ((r.step arg).bind _).bind _ = _
    cases r.step arg <;> rfl
  rw [hbind, bind_eq_ok_iff]
  simp only [step_eq_ok_iff, and_assoc]

/-- After a line is closed, nothing may follow. -/
theorem complete_closed_iff {args : List RawText} (hc : r.closed = true) :
    r.complete args = .ok r' ↔ args = [] ∧ r.Begins ⟨[], none⟩ r' := by
  cases args with
  | nil => simp [complete_nil_eq_ok_iff]
  | cons arg args => simp [complete_cons_eq_ok_iff, hc]

/-- A line does not end while a switch waits. -/
theorem complete_waiting_nil (hw : r.waiting? = some s) : r.complete [] ≠ .ok r' := by
  rw [Ne, complete_nil_eq_ok_iff]
  exact fun h => nomatch hw.symm.trans h.1

/-- It goes on with the value of the switch. -/
theorem complete_waiting_cons_iff {args : List RawText} (hc : r.closed = false)
    (hw : r.waiting? = some s) : r.complete (arg :: args) = .ok r' ↔
      s.admits arg = true ∧ (r.supply arg).complete args = .ok r' := by
  rw [complete_cons_eq_ok_iff]
  constructor
  · rintro ⟨q, -, hstep, hq⟩
    cases hstep with
    | value hs ha =>
      obtain rfl : s = _ := Option.some.inj (hw.symm.trans hs)
      exact ⟨ha, hq⟩
    | escape harg ht =>
      -- The line is closed, and the switch still waits.
      obtain ⟨rfl, h, -⟩ := (complete_closed_iff rfl).mp hq
      cases hw.symm.trans h
    | switches hsaid hb => cases hw.symm.trans hb.1
  · rintro ⟨ha, hq⟩
    exact ⟨_, hc, .value hw ha, hq⟩

/-- Where no switch waits, a bare `--` closes the line. -/
theorem complete_escape_iff {args : List RawText} (hc : r.closed = false)
    (hw : r.waiting? = none) : r.complete (.escape :: args) = .ok r' ↔
      args = [] ∧ Begins { r with closed := true } ⟨[], none⟩ r' := by
  rw [complete_cons_eq_ok_iff, ← complete_closed_iff rfl]
  constructor
  · rintro ⟨q, -, hstep, hq⟩
    cases hstep with
    | value hs ha => cases hw.symm.trans hs
    | escape harg ht => exact hq
    | switches hsaid hb => cases hsaid
  · intro hq
    have ht : r.takesAny = false := by rw [takesAny, hw]; rfl
    exact ⟨_, hc, .escape rfl ht, hq⟩

/-- Where no switch waits, any other argument says something. -/
theorem complete_unsaid (hw : r.waiting? = none) (harg : arg ≠ .escape)
    (hsaid : Use.ofArgument? arg = none) (args : List RawText) :
    r.complete (arg :: args) ≠ .ok r' := by
  intro h
  obtain ⟨q, -, hstep, -⟩ := complete_cons_eq_ok_iff.mp h
  cases hstep with
  | value hs ha => cases hw.symm.trans hs
  | escape h ht => exact harg h
  | switches hsome hb => cases hsaid.symm.trans hsome

/-- And it does what it says. -/
theorem complete_said_iff {args : List RawText} (hc : r.closed = false) (hw : r.waiting? = none)
    (hsaid : Use.ofArgument? arg = some ⟨us, w⟩) : r.complete (arg :: args) = .ok r' ↔
      ∃ b, r.done.useAll (r.pending ++ us) = .ok b ∧
        complete ⟨b, w.map fun s => (s, none), false⟩ args = .ok r' := by
  rw [complete_cons_eq_ok_iff]
  constructor
  · rintro ⟨_, -, hstep, hq⟩
    cases hstep with
    | value hs ha => cases hw.symm.trans hs
    | escape h ht => subst h; cases hsaid
    | switches hsome hb =>
      cases hsome.symm.trans hsaid
      obtain ⟨-, b, hb, rfl⟩ := hb
      rw [hc] at hq
      exact ⟨b, hb, hq⟩
  · rintro ⟨b, hb, hq⟩
    rw [← hc] at hq
    exact ⟨_, hc, .switches hsaid ⟨hw, b, hb, rfl⟩, hq⟩

/-- What is said first is set first. -/
theorem useAll_prepend_iff {line : Option (List Use × Bool)} {ps : List Use} {a c : Arguments}
    {closed : Bool} :
    (∃ ws, Use.prepend us line = some (ws, closed) ∧ a.useAll (ps ++ ws) = .ok c) ↔
      ∃ b, a.useAll (ps ++ us) = .ok b ∧
        ∃ vs, line = some (vs, closed) ∧ b.useAll vs = .ok c := by
  constructor
  · rintro ⟨_, hline, h⟩
    obtain ⟨vs, hvs, rfl⟩ := Use.prepend_eq_some_iff.mp hline
    rw [← List.append_assoc, Arguments.useAll_append_eq_ok_iff] at h
    obtain ⟨b, hb, h⟩ := h
    exact ⟨b, hb, vs, hvs, h⟩
  · rintro ⟨b, hb, vs, hvs, h⟩
    refine ⟨us ++ vs, Use.prepend_eq_some_iff.mpr ⟨vs, hvs, rfl⟩, ?_⟩
    rw [← List.append_assoc, Arguments.useAll_append_eq_ok_iff]
    exact ⟨b, hb, h⟩

/-- **The rest of a line**, from a point where it is not closed and no switch waits. What
is not examined yet comes first, and then what the rest says. -/
theorem complete_eq_ok_iff {args : List RawText} {a : Arguments} {closed : Bool}
    (hc : r.closed = false) (hw : r.waiting? = none) :
    r.complete args = .ok ⟨a, none, closed⟩ ↔
      ∃ us, Use.ofLine? args = some (us, closed) ∧ r.done.useAll (r.pending ++ us) = .ok a := by
  fun_induction Use.ofLine? args generalizing r
  case case1 =>
    rw [complete_nil_eq_ok_iff]
    constructor
    · rintro ⟨-, _, hb, h⟩
      cases h
      exact ⟨[], by rw [hc], hb⟩
    · rintro ⟨_, hline, hb⟩
      cases hline
      exact ⟨hw, a, hb, by rw [hc]; rfl⟩
  case case2 rest hrest =>
    obtain rfl : rest = [] := List.isEmpty_iff.mp hrest
    rw [complete_escape_iff hc hw]
    constructor
    · rintro ⟨-, -, _, hb, h⟩
      cases h
      exact ⟨[], rfl, hb⟩
    · rintro ⟨_, hline, hb⟩
      cases hline
      exact ⟨rfl, hw, a, hb, rfl⟩
  case case3 rest hrest =>
    -- Something follows the `--`.
    rw [complete_escape_iff hc hw]
    exact iff_of_false (fun h => hrest (List.isEmpty_iff.mpr h.1)) (fun ⟨_, h, _⟩ => nomatch h)
  case case4 arg rest harg hsaid =>
    exact iff_of_false (complete_unsaid hw harg hsaid rest) (fun ⟨_, h, _⟩ => nomatch h)
  case case5 us hsaid ih =>
    rw [complete_said_iff hc hw hsaid, useAll_prepend_iff]
    exact exists_congr fun b => and_congr_right fun _ => ih rfl rfl
  case case6 us s hsaid =>
    -- The line ends before the switch has its value.
    rw [complete_said_iff hc hw hsaid]
    refine iff_of_false ?_ (fun ⟨_, h, _⟩ => nomatch h)
    rintro ⟨b, -, hq⟩
    exact complete_waiting_nil rfl hq
  case case7 us s hsaid value rest hadmits ih =>
    rw [complete_said_iff hc hw hsaid, Use.prepend_append, useAll_prepend_iff]
    refine exists_congr fun b => and_congr_right fun _ => ?_
    -- The value is examined when the rest is read, and is said in front of it.
    rw [complete_waiting_cons_iff rfl rfl, and_iff_right hadmits, ih rfl rfl]
    simp only [Use.prepend_eq_some_iff]
    constructor
    · rintro ⟨vs, hvs, h⟩
      exact ⟨_, ⟨vs, hvs, rfl⟩, h⟩
    · rintro ⟨_, ⟨vs, hvs, rfl⟩, h⟩
      exact ⟨vs, hvs, h⟩
  case case8 us s hsaid value rest hadmits =>
    rw [complete_said_iff hc hw hsaid]
    refine iff_of_false ?_ (fun ⟨_, h, _⟩ => nomatch h)
    rintro ⟨b, -, hq⟩
    exact hadmits ((complete_waiting_cons_iff rfl rfl).mp hq).1

theorem complete_opened {args : List RawText} (h : r.complete args = .ok r') :
    r'.opened = none := by
  obtain ⟨q, -, hq⟩ := bind_eq_ok_iff.mp h
  exact (finish_eq_ok_iff.mp hq).opened

end Progress

/-! ### Whole lines -/

namespace Arguments

variable {args : List RawText} {a : Arguments}

theorem parse_eq (args : List RawText) :
    parse args = (Progress.start.complete args).map Progress.done := by
  rw [parse, Progress.complete]
  change (args.foldlM Progress.step Progress.start).bind _ = _
  cases args.foldlM Progress.step Progress.start with
  | error e => rfl
  | ok r =>
    change r.finish.bind _ = r.finish.map _
    cases r.finish <;> rfl

/-- **Command lines.** A line is accepted exactly if it says something, and all that it
says can be set. -/
theorem parse_eq_ok_iff : parse args = .ok a ↔
    ∃ us closed, Use.ofLine? args = some (us, closed) ∧ none.useAll us = .ok a := by
  have hline : ∀ closed, Progress.start.complete args = .ok ⟨a, .none, closed⟩ ↔
      ∃ us, Use.ofLine? args = some (us, closed) ∧ none.useAll us = .ok a :=
    fun _ => Progress.complete_eq_ok_iff rfl rfl
  rw [parse_eq, map_eq_ok_iff, exists_comm]
  simp only [← hline]
  constructor
  · rintro ⟨⟨done, opened, closed⟩, hr, rfl⟩
    obtain rfl : opened = .none := Progress.complete_opened hr
    exact ⟨closed, hr⟩
  · rintro ⟨closed, hr⟩
    exact ⟨_, hr, rfl⟩

/-- A switch is used on a line, in whatever spelling. -/
def UsedIn (args : List RawText) (s : Switch) : Prop :=
  ∃ us closed, Use.ofLine? args = some (us, closed) ∧ s ∈ us.map Prod.fst

/-- What an accepted line sets is what is used on it. -/
theorem usedIn_iff (h : parse args = .ok a) {s : Switch} : UsedIn args s ↔ a.uses s = true := by
  obtain ⟨us, closed, hline, hus⟩ := parse_eq_ok_iff.mp h
  rw [uses_useAll hus s]
  constructor
  · rintro ⟨us', closed', hline', hs⟩
    obtain ⟨rfl, -⟩ := Prod.mk.inj (Option.some.inj (hline.symm.trans hline'))
    exact hs
  · exact fun hs => ⟨us, closed, hline, hs⟩

end Arguments

end SqlProbe
