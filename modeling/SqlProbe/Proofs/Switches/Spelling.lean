import SqlProbe.Proofs.Switches.Composition
import SqlProbe.Proofs.Switches.Value

/-!
# The spellings of a switch

A switch and its value can be written as one argument or as two: `--name=value`,
`-n=value` and `-nvalue` on the one side, `--name` or `-n` and then the value on the
other. All of them say the same, and so the line sets what the value sets
(`Arguments.parse_spelling`), with one difference. An argument of its own that starts
with a hyphen can be the value of some switches, whatever else it looks like, and of the
other switches it is never the value.

What a line of one switch says is read off its first argument by itself
(`Use.ofArgument?`): the use of the switch with its value in it, or the switch without
one, which waits for the next argument (`Arguments.parse_attached_iff`,
`Arguments.parse_separate_iff`).
-/

namespace SqlProbe

namespace Switch

/-- The switches that say so themselves: their value may start with a hyphen. -/
def hyphenTakers : List Switch := [query, result, regex, pass]

/-- A switch as an argument without its value. -/
def names (s : Switch) : List RawText :=
  .ofString ("--" ++ s.longName) :: s.letter?.toList.map fun c => .ofString ("-" ++ c.toString)

variable {s : Switch} {c : Char}

theorem takesHyphen_iff : s.takesHyphen = true ↔ s ∈ hyphenTakers := by
  cases s <;> decide

/-- A long name has no `=` in it. -/
theorem ne_equals_of_mem_longName (hc : c ∈ s.longName.toList) : c ≠ '=' := by
  rintro rfl
  cases s <;> exact absurd hc (by decide)

theorem longName_ne_empty (s : Switch) : s.longName.toList ≠ [] := by
  cases s <;> decide

/-- No letter is a hyphen. -/
theorem letter?_ne_hyphen (hc : s.letter? = some c) : c ≠ '-' := by
  rintro rfl
  cases s <;> cases hc

end Switch

/-! ### What the first argument says -/

namespace Use

variable {s : Switch} {v : String} {c : Char}

/-- The characters of a text as pieces. -/
theorem pieces_ofString (v : String) : (RawText.ofString v).pieces = v.toList.map .char := rfl

/-- The name of a long switch ends at the first `=`. -/
theorem span_longName (s : Switch) {rest : List RawPiece}
    (hrest : rest = [] ∨ rest.head? = some (.char '=')) :
    (s.longName.toList.map RawPiece.char ++ rest).takeWhile (· != .char '=') =
        s.longName.toList.map .char ∧
      (s.longName.toList.map RawPiece.char ++ rest).dropWhile (· != .char '=') = rest := by
  have hname : ∀ p ∈ s.longName.toList.map RawPiece.char, (p != .char '=') = true := by
    intro p hp
    obtain ⟨c, hc, rfl⟩ := List.mem_map.mp hp
    simpa using Switch.ne_equals_of_mem_longName hc
  rw [List.takeWhile_append_of_pos hname, List.dropWhile_append_of_pos hname]
  obtain rfl | hrest := hrest
  · simp
  · cases rest with
    | nil => cases hrest
    | cons p rest =>
      obtain rfl : p = .char '=' := Option.some.inj hrest
      simp

theorem ofArgument?_long (body : List RawPiece) (hbody : body ≠ []) :
    ofArgument? ⟨.char '-' :: .char '-' :: body⟩ = ofLong? body := by
  cases body with
  | nil => exact absurd rfl hbody
  | cons p body => rfl

theorem ofArgument?_cluster {letters : List RawPiece} (hc : c ≠ '-') :
    ofArgument? ⟨.char '-' :: .char c :: letters⟩ = ofCluster? (.char c :: letters) := by
  simp [ofArgument?, hc]

/-- `--name` -/
theorem ofArgument?_longName (hs : s.takesValue = true) :
    ofArgument? (.ofString ("--" ++ s.longName)) = some ⟨[], some s⟩ := by
  have hbody := s.longName_ne_empty
  have hpieces : RawText.ofString ("--" ++ s.longName) =
      ⟨.char '-' :: .char '-' :: (s.longName.toList.map .char ++ [])⟩ := by
    simp [RawText.ofString]
  obtain ⟨htake, hdrop⟩ := span_longName s (.inl rfl)
  rw [hpieces, ofArgument?_long _ (by simpa using hbody), ofLong?]
  simp only [htake, hdrop]
  simp [RawText.toString?, hs]

/-- `--name=value` -/
theorem ofArgument?_longValue (hs : s.takesValue = true) (v : RawText) :
    ofArgument? ⟨(RawText.ofString ("--" ++ s.longName ++ "=")).pieces ++ v.pieces⟩ =
      some ⟨[(s, v)], none⟩ := by
  have hpieces : (RawText.ofString ("--" ++ s.longName ++ "=")).pieces ++ v.pieces =
      .char '-' :: .char '-' :: (s.longName.toList.map .char ++ .char '=' :: v.pieces) := by
    simp [RawText.ofString]
  have hequals : (RawPiece.char '=' :: v.pieces).head? = some (.char '=') := rfl
  obtain ⟨htake, hdrop⟩ := span_longName s (.inr hequals)
  rw [hpieces, ofArgument?_long _ (by simp), ofLong?]
  simp only [htake, hdrop]
  simp [RawText.toString?, hs]

/-- `-n`, with what follows the letter -/
theorem ofArgument?_letter (hs : s.takesValue = true) (hc : s.letter? = some c)
    (rest : List RawPiece) :
    ofArgument? ⟨.char '-' :: .char c :: rest⟩ =
      match Progress.attached? rest with
      | some v => some ⟨[(s, v)], none⟩
      | none => some ⟨[], some s⟩ := by
  rw [ofArgument?_cluster (Switch.letter?_ne_hyphen hc), ofCluster?, Switch.ofLetter?_eq_some hc]
  exact if_pos hs

/-- A value without a `=` in front of it is attached as it is. -/
theorem attached?_of_ne {rest : List RawPiece} (hne : rest ≠ [])
    (hhead : rest.head? ≠ some (.char '=')) : Progress.attached? rest = some ⟨rest⟩ := by
  unfold Progress.attached?
  split
  · exact absurd rfl hne
  · exact absurd rfl hhead
  · rfl

end Use

/-! ### Lines of one switch -/

namespace Arguments

variable {s : Switch} {arg value : RawText} {a : Arguments} {v : String}

theorem none_useAll_singleton_iff (hs : s.takesValue = true) :
    none.useAll [(s, value)] = .ok a ↔ s.Sets value a := by
  rw [useAll_singleton, use_eq_ok_iff, uses_none, ← setValue_eq_ok_iff hs]
  simp only [none_union, true_and, exists_eq_right']

/-- The value is in the argument. -/
theorem parse_attached_iff (hs : s.takesValue = true)
    (harg : Use.ofArgument? arg = some ⟨[(s, value)], .none⟩) :
    parse [arg] = .ok a ↔ s.Sets value a := by
  rw [parse_eq_ok_iff, Use.ofLine?_cons harg, ← none_useAll_singleton_iff hs]
  simp [Use.ofLine?, Use.prepend]

/-- The value is the next argument, if it can be one. -/
theorem parse_separate_iff (hs : s.takesValue = true)
    (harg : Use.ofArgument? arg = some ⟨[], some s⟩) :
    parse [arg, value] = .ok a ↔ s.admits value = true ∧ s.Sets value a := by
  rw [parse_eq_ok_iff, ← none_useAll_singleton_iff hs]
  cases hv : s.admits value with
  | true =>
    rw [Use.ofLine?_cons_value harg hv]
    simp [Use.ofLine?, Use.prepend]
  | false =>
    rw [Use.ofLine?, if_neg (Use.ne_escape_of_ofArgument? harg), harg]
    simp [hv]

/-- What is an argument of its own is led by a hyphen if it starts with one and is not
just that. -/
theorem hyphenLed_ofString_iff :
    (RawText.ofString v).hyphenLed = true ↔ v.toList.head? = some '-' ∧ v ≠ "-" := by
  have hv : v = "-" ↔ v.toList = ['-'] := by rw [← String.toList_inj]; rfl
  rw [Progress.hyphenLed_eq_true_iff, Use.pieces_ofString, Ne, hv]
  rcases v.toList with _ | ⟨c, _ | ⟨d, rest⟩⟩ <;> simp

/-- **The spellings of a switch.** Written as one argument, in any of three ways, or as
two, in either of two, the switch sets what the value sets. A value that starts with a
hyphen and is not just that is an argument of its own only with the switches that take
it so. With the others the line is refused. -/
theorem parse_spelling (hs : s.takesValue = true) (v : String) (a : Arguments) :
    (parse [.ofString ("--" ++ s.longName ++ "=" ++ v)] = .ok a ↔ s.Sets (.ofString v) a) ∧
    (∀ c, s.letter? = some c → v ≠ "" →
      (parse [.ofString ("-" ++ c.toString ++ "=" ++ v)] = .ok a ↔ s.Sets (.ofString v) a) ∧
      (v.toList.head? ≠ some '=' →
        (parse [.ofString ("-" ++ c.toString ++ v)] = .ok a ↔ s.Sets (.ofString v) a))) ∧
    ∀ name ∈ s.names,
      (s ∈ Switch.hyphenTakers →
        (parse [name, .ofString v] = .ok a ↔ s.Sets (.ofString v) a)) ∧
      (s ∉ Switch.hyphenTakers →
        (v.toList.head? ≠ some '-' ∨ v = "-" →
          (parse [name, .ofString v] = .ok a ↔ s.Sets (.ofString v) a)) ∧
        (v.toList.head? = some '-' ∧ v ≠ "-" → ∃ e, parse [name, .ofString v] = .error e)) := by
  refine ⟨?_, fun c hc hv => ⟨?_, fun hequals => ?_⟩, fun name hname => ?_⟩
  · have hpieces : RawText.ofString ("--" ++ s.longName ++ "=" ++ v) =
        ⟨(RawText.ofString ("--" ++ s.longName ++ "=")).pieces ++ (RawText.ofString v).pieces⟩ := by
      simp [RawText.ofString]
    exact parse_attached_iff hs (hpieces ▸ Use.ofArgument?_longValue hs _)
  · have hpieces : RawText.ofString ("-" ++ c.toString ++ "=" ++ v) =
        ⟨.char '-' :: .char c :: .char '=' :: v.toList.map .char⟩ := by
      simp [RawText.ofString]
    exact parse_attached_iff hs (hpieces ▸ Use.ofArgument?_letter hs hc _)
  · have hpieces : RawText.ofString ("-" ++ c.toString ++ v) =
        ⟨.char '-' :: .char c :: v.toList.map .char⟩ := by
      simp [RawText.ofString]
    have hattached : Progress.attached? (v.toList.map .char) = some (.ofString v) :=
      Use.attached?_of_ne (by simpa using hv) (by simpa [List.head?_map] using hequals)
    refine parse_attached_iff hs ?_
    rw [hpieces, Use.ofArgument?_letter hs hc, hattached]
  · have harg : Use.ofArgument? name = some ⟨[], some s⟩ := by
      rw [Switch.names, List.mem_cons, List.mem_map] at hname
      obtain rfl | ⟨c, hc, rfl⟩ := hname
      · exact Use.ofArgument?_longName hs
      · have hpieces : RawText.ofString ("-" ++ c.toString) = ⟨[.char '-', .char c]⟩ := by
          simp [RawText.ofString]
        rw [hpieces, Use.ofArgument?_letter hs (Option.mem_toList.mp hc)]
        rfl
    have hadmits : s.admits (.ofString v) = true ↔
        s ∈ Switch.hyphenTakers ∨ ¬ (v.toList.head? = some '-' ∧ v ≠ "-") := by
      rw [Switch.admits, Bool.or_eq_true, Switch.takesHyphen_iff, Bool.not_eq_true',
        ← Bool.not_eq_true, hyphenLed_ofString_iff]
    have hparse : parse [name, .ofString v] = .ok a ↔
        s.admits (.ofString v) = true ∧ s.Sets (.ofString v) a := parse_separate_iff hs harg
    refine ⟨fun h => ?_, fun h => ⟨fun hv => ?_, fun hv => ?_⟩⟩
    · rw [hparse, hadmits, and_iff_right (.inl h)]
    · have hplain : ¬ (v.toList.head? = some '-' ∧ v ≠ "-") :=
        fun hled => hv.elim (absurd hled.1) hled.2
      rw [hparse, hadmits, and_iff_right (.inr hplain)]
    · cases hresult : parse [name, .ofString v] with
      | error e => exact ⟨e, rfl⟩
      | ok b =>
        obtain ⟨hb, -⟩ := (parse_separate_iff hs harg).mp hresult
        exact absurd hv ((hadmits.mp hb).resolve_left h)

/-- A `--` is the password after `--pass`. -/
theorem parse_spelling_escape :
    Switch.pass.takesValue = true ∧
      parse [.ofString "--pass", .ofString "--"] = .ok { none with pass := some "--" } := by
  refine ⟨rfl, ?_⟩
  have hspelling := (parse_spelling (s := .pass) rfl "--" { none with pass := some "--" }).2.2
  exact ((hspelling _ List.mem_cons_self).1 (by decide)).mpr (.pass rfl)

end Arguments

end SqlProbe
