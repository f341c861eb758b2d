import SqlProbe.Proofs.Decision.Stages
import SqlProbe.Proofs.Plan
import SqlProbe.Proofs.Settings.Mapping
import SqlProbe.Proofs.Switches.Composition
import SqlProbe.Proofs.Switches.Spelling
import SqlProbe.Proofs.Threshold.Grammar
import SqlProbe.Proofs.Yaml.Numbers

/-!
# Bare numbers as thresholds

The plainest threshold is a number and nothing else: a run of digits. After its switch,
and between double quotes in a file, the digits are the text that is set
(`Arguments.parse_append_threshold`, `Layer.parse_quoted_digits`). Bare in a file they
stand for a value first, and what is set is the text of this value
(`Layer.parse_digits`).

The two texts are the same up to 64 bits and past all floating-point numbers, and always
where a zero in front makes the digits a text. In between they are not. An integer of
more than 64 bits is no value, so that the file is refused (`Layer.parse_digits_wide`).
And the text of a floating-point number has a mark in it that no threshold has
(`Threshold.parse_render`), so that nothing can be judged by it
(`Settings.unknown_of_badThreshold`). This is all there is between a bare number and the
text of its digits (`Layer.bareThreshold_agrees_iff`).
-/

namespace SqlProbe

open Threshold (Run)
open Yaml (Document Line Node Path Reader Scalar ScalarStyle)

/-! ### One threshold -/

namespace Level

/-- The field of a file for a threshold. -/
def key : Level → FileKey
  | warning => .warn
  | critical => .crit

/-- The switch for a threshold. -/
def switch : Level → Switch
  | warning => .warn
  | critical => .crit

/-- The short spelling of the switch. -/
def flag : Level → String
  | warning => "-w"
  | critical => "-c"

end Level

namespace Layer

variable {level : Level} {name : String} {value : List Char} {quoted : Bool}

/-- The layer of one threshold. -/
def ofThreshold : Level → Option String → Layer
  | .warning, raw => { empty with warn := raw }
  | .critical, raw => { empty with crit := raw }

/-! ### A file of one entry -/

/-- The text of an entry, with or without the end of its line. -/
def entryText (name value : String) (ended : Bool) : String :=
  name ++ ": " ++ value ++ if ended then "\n" else ""

theorem valid_entry {k : FileKey} (hname : name ∈ k.names)
    (hvalue : quoted = false → Yaml.isWord value = true) :
    Line.Valid ⟨name.toList, quoted, value⟩ :=
  have hline := valid_line (f := empty) hname
  ⟨hline.key, hline.noHyphen, hline.short, hvalue⟩

theorem document_entryText {line : Line} (hline : line.Valid) (ended : Bool) :
    Yaml.parse (entryText (String.ofList line.key) (String.ofList line.body) ended) =
      .ok (.ofRoot (.mapping .none [line.entry])) := by
  cases ended with
  | true =>
    have htext : entryText (String.ofList line.key) (String.ofList line.body) true =
        String.ofList ([line].flatMap Line.text) := by
      rw [← String.toList_inj]
      simp [entryText, Line.text]
    rw [htext]
    exact Yaml.parse_lines (List.forall_mem_singleton.mpr hline) (List.cons_ne_nil _ _)
  | false =>
    have htext : entryText (String.ofList line.key) (String.ofList line.body) false =
        String.ofList line.unended := by
      rw [← String.toList_inj]
      simp [entryText, Line.unended]
    rw [htext]
    exact Yaml.parse_unended hline

/-- A scalar is read as a text, whatever it stands for. -/
theorem readText_scalar (d : Document) (path : Path) (style : ScalarStyle) (text : String) :
    readText d path (.scalar .none style text) =
      Yaml.valueOfScalar path (Yaml.plainScalar style text) >>= textOf := by
  obtain ⟨f, hread, hf⟩ :=
    Yaml.exists_readValue_eq d nestingLimit path (.scalar .none style text)
  have hresolve : Yaml.resolve d (.scalar .none style text) = pure (.scalar .none style text) := rfl
  have hcontent : Yaml.contentOf Yaml.Marks.none.tag style text =
      .ok (Yaml.plainScalar style text) := rfl
  have hunder : Yaml.underTag Yaml.Marks.none.tag = id := rfl
  rw [readText, hread, hresolve, pure_bind, hf, hcontent, hunder, id_map]

theorem readField_threshold (d : Document) (path : Path) (n : Node) (level : Level) :
    readField d path n empty level.key = ofThreshold level <$> readText d path n := by
  rw [readField_eq]
  cases level <;> rfl

/-- The one entry is read into its field. -/
theorem readFields_threshold (d : Document) (hname : name ∈ level.key.names) (n : Node) :
    readFields d [] empty [(.scalar .none .plain name, n)] =
      ofThreshold level <$> readText d (some name) n := by
  -- A plain name is the field's name and the path of its value.
  have hkey : Yaml.readFieldName d none (.scalar .none .plain name) = pure name := rfl
  have hpath : Path.entry none (Yaml.writtenKey? (.scalar .none .plain name)) = some name :=
    congrArg some String.empty_append
  rw [readFields, hkey, pure_bind, FileKey.ofName?_eq_some_iff.mpr hname]
  simp only [List.contains_nil, Bool.false_eq_true, if_false, hpath, readField_threshold, readFields]
  exact bind_pure _

/-- **A file of one threshold** is read as what its value stands for. -/
theorem parse_entryText (hname : name ∈ level.key.names) (quoted : Bool) (value : List Char)
    (hvalue : quoted = false → Yaml.isWord value = true) (ended : Bool) :
    parse (entryText name (String.ofList (Line.body ⟨name.toList, quoted, value⟩)) ended) =
      match (Yaml.valueOfScalar (some name) (Yaml.plainScalar
          (Line.style ⟨name.toList, quoted, value⟩) (String.ofList value)) >>= textOf) 0 with
      | .ok r => .ok (ofThreshold level r.1)
      | .error e => .error (.misread e) := by
  have hparse := document_entryText (valid_entry hname hvalue) ended
  simp only [String.ofList_toList] at hparse
  rw [parse_of_root hparse rfl]
  simp only [Line.entry, String.ofList_toList, readFields_threshold _ hname, readText_scalar]
  generalize Yaml.valueOfScalar _ _ >>= textOf = r
  have hmap : (ofThreshold level <$> r) 0 = (r 0).map fun p => (ofThreshold level p.1, p.2) := by
    show (r 0).bind _ = _
    cases r 0 <;> rfl
  rw [hmap]
  cases r 0 <;> rfl

end Layer

/-! ### Digits in a file -/

namespace Threshold

namespace Run

/-- Whether the first digit is a zero that counts for nothing. -/
def hasLeadingZero (n : Run) : Bool := Scalar.hasLeadingZero n.digits

end Run

/-- The text of a floating-point number is no threshold. -/
theorem parse_render (x : Binary64) :
    parse (Yaml.numberLayout.render x) = .error ⟨Yaml.numberLayout.render x⟩ := by
  refine parse_eq_error_iff.mpr ⟨rfl, fun w hw => ?_⟩
  obtain ⟨c, hc, hmark⟩ := Yaml.exists_mark_mem_render x
  rw [← Written.text_eq_iff.mp hw] at hc
  have hwritten := Written.mark_of_mem_chars hc
  obtain rfl | rfl := hmark <;> exact absurd hwritten (by decide)

end Threshold

namespace Layer

variable {level : Level} {name : String}

/-- **Bare digits in a file** set the text of what they stand for. That is the digits
again if they are an integer of 64 bits or a text themselves, with a zero in front or too
large for a number. -/
theorem parse_digits (hname : name ∈ level.key.names) (n : Run) (ended : Bool) :
    parse (entryText name n.text ended) =
      if n.hasLeadingZero = true ∨ n.number < Scalar.wideStart then
        .ok (ofThreshold level (some n.text))
      else if n.number < Scalar.wideEnd then
        .error (.misread ⟨some name,
          .wrongType (.scalar (.wideInteger n.number)) "any YAML value"⟩)
      else if n.number < Binary64.overflowStart then
        .ok (ofThreshold level (some (Yaml.numberLayout.render (.ofNat false n.number))))
      else .ok (ofThreshold level (some n.text)) := by
  have hread : parse (entryText name n.text ended) = _ :=
    parse_entryText hname false n.digits (fun _ => isWord_digits n.plainRun) ended
  have hplain : Yaml.plainScalar (Line.style ⟨name.toList, false, n.digits⟩)
      (String.ofList n.digits) = Scalar.ofPlain (String.ofList n.digits) := rfl
  rw [hread, hplain]
  -- A zero in front makes a text of the digits, whatever their number is.
  by_cases hzero : n.hasLeadingZero = true
  · rw [if_pos (.inl hzero), Scalar.ofPlain_digits_of_leadingZero n.plainRun hzero]
    rfl
  -- Without such a zero, the size alone decides.
  have hnumber : Digit.natOf 10 n.digits = n.number := rfl
  rw [Scalar.ofPlain_digits n.plainRun (Bool.eq_false_iff.mpr hzero), hnumber]
  -- An integer is set as a text of its own, which is that of its digits.
  by_cases hstart : n.number < Scalar.wideStart
  · have hrepr := Scalar.repr_natOf n.plainRun (Bool.eq_false_iff.mpr hzero)
    rw [if_pos hstart, if_pos (.inr hstart), Run.text, ← hrepr]
    rfl
  rw [if_neg hstart, if_neg (not_or.mpr ⟨hzero, hstart⟩)]
  by_cases hend : n.number < Scalar.wideEnd
  · rw [if_pos hend, if_pos hend]
    rfl
  rw [if_neg hend, if_neg hend]
  by_cases hfinite : n.number < Binary64.overflowStart
  · rw [if_pos hfinite, if_pos hfinite]
    rfl
  · rw [if_neg hfinite, if_neg hfinite]
    rfl

/-- The digits are the text that is set. -/
theorem parse_digits_of_kept (hname : name ∈ level.key.names) {n : Run}
    (hkept : n.hasLeadingZero = true ∨ n.number < Scalar.wideStart ∨
      Binary64.overflowStart ≤ n.number) (ended : Bool) :
    parse (entryText name n.text ended) = .ok (ofThreshold level (some n.text)) := by
  rw [parse_digits hname]
  by_cases hkind : n.hasLeadingZero = true ∨ n.number < Scalar.wideStart
  · exact if_pos hkind
  have hoverflow : Binary64.overflowStart ≤ n.number := (or_assoc.mpr hkept).resolve_left hkind
  have hend : Scalar.wideEnd ≤ n.number := Scalar.wideEnd_lt_overflowStart.le.trans hoverflow
  rw [if_neg hkind, if_neg (Nat.not_lt.mpr hend), if_neg (Nat.not_lt.mpr hoverflow)]

/-- They are an integer that no value can hold. -/
theorem parse_digits_wide (hname : name ∈ level.key.names) {n : Run}
    (hzero : n.hasLeadingZero = false) (hstart : Scalar.wideStart ≤ n.number)
    (hend : n.number < Scalar.wideEnd) (ended : Bool) :
    parse (entryText name n.text ended) = .error (.misread ⟨some name,
      .wrongType (.scalar (.wideInteger n.number)) "any YAML value"⟩) := by
  have hkind : ¬ (n.hasLeadingZero = true ∨ n.number < Scalar.wideStart) :=
    not_or.mpr ⟨Bool.eq_false_iff.mp hzero, Nat.not_lt.mpr hstart⟩
  rw [parse_digits hname, if_neg hkind, if_pos hend]

/-- They are a floating-point number, and its text is set. -/
theorem parse_digits_float (hname : name ∈ level.key.names) {n : Run}
    (hzero : n.hasLeadingZero = false) (hend : Scalar.wideEnd ≤ n.number)
    (hfinite : n.number < Binary64.overflowStart) (ended : Bool) :
    parse (entryText name n.text ended) =
      .ok (ofThreshold level (some (Yaml.numberLayout.render (.ofNat false n.number)))) := by
  have hwide : Scalar.wideStart ≤ Scalar.wideEnd := by decide
  have hkind : ¬ (n.hasLeadingZero = true ∨ n.number < Scalar.wideStart) :=
    not_or.mpr ⟨Bool.eq_false_iff.mp hzero, Nat.not_lt.mpr (hwide.trans hend)⟩
  rw [parse_digits hname, if_neg hkind, if_neg (Nat.not_lt.mpr hend), if_pos hfinite]

/-- A number between double quotes is the text of its digits. -/
theorem parse_quoted_digits (hname : name ∈ level.key.names) (n : Run) (ended : Bool) :
    parse (entryText name ("\"" ++ n.text ++ "\"") ended) =
      .ok (ofThreshold level (some n.text)) := by
  have hbody : String.ofList (Line.body ⟨name.toList, true, n.digits⟩) =
      "\"" ++ n.text ++ "\"" := by
    rw [← String.toList_inj]
    simp [Line.body, Yaml.Quoted.write_word (isWord_digits n.plainRun), Run.text]
  rw [← hbody, parse_entryText hname true n.digits fun h => absurd h Bool.true_eq_false.mp]
  rfl

end Layer

/-! ### A number as the value of a switch -/

namespace Arguments

open Threshold (Run)

variable {level : Level} {pre : List RawText} {a : Arguments} {raw : String}

/-- The arguments that set one threshold. -/
def ofThreshold : Level → String → Arguments
  | .warning, raw => { none with warn := some raw }
  | .critical, raw => { none with crit := some raw }

theorem uses_ofThreshold (level : Level) (raw : String) (s : Switch) :
    (ofThreshold level raw).uses s = true ↔ s = level.switch := by
  cases level <;> cases s <;> simp [ofThreshold, uses, none, Level.switch]

/-- A switch that is not used yet sets what a file over the others would set. -/
theorem ofArguments_union (ha : a.uses level.switch = false) (raw : String) :
    Settings.ofArguments (a.union (ofThreshold level raw)) =
      (Settings.ofArguments a).overlay (.ofThreshold level (some raw)) := by
  cases level with
  | warning =>
    have hwarn : a.warn = .none := Option.not_isSome_iff_eq_none.mp (Bool.eq_false_iff.mp ha)
    simp [ofThreshold, union, none, Settings.ofArguments, Settings.overlay, Layer.ofThreshold,
      Layer.empty, hwarn]
  | critical =>
    have hcrit : a.crit = .none := Option.not_isSome_iff_eq_none.mp (Bool.eq_false_iff.mp ha)
    simp [ofThreshold, union, none, Settings.ofArguments, Settings.overlay, Layer.ofThreshold,
      Layer.empty, hcrit]

/-- A number follows its switch, since no digit is a hyphen. -/
theorem parse_threshold (level : Level) (n : Run) :
    parse [.ofString level.flag, .ofString n.text] = .ok (ofThreshold level n.text) := by
  have hled : (RawText.ofString n.text).hyphenLed = false := by
    rw [Bool.eq_false_iff, Ne, hyphenLed_ofString_iff, Run.text, String.toList_ofList]
    rintro ⟨hhead, -⟩
    exact absurd (n.all '-' (List.mem_of_mem_head? hhead)) (by decide)
  have hadmits : ∀ s : Switch, s.admits (.ofString n.text) = true := by
    intro s
    rw [Switch.admits, hled, Bool.not_false, Bool.or_true]
  have hvalue := RawText.toString?_ofString n.text
  cases level with
  | warning => exact (parse_separate_iff (s := .warn) rfl rfl).mpr ⟨hadmits _, .warn hvalue⟩
  | critical => exact (parse_separate_iff (s := .crit) rfl rfl).mpr ⟨hadmits _, .crit hvalue⟩

/-- **One more switch** on a line, with a number as its value. -/
theorem parse_append_threshold (hpre : parse pre = .ok a) (hends : ¬ EndsInEscape pre)
    (ha : a.uses level.switch = false) (n : Run) :
    ∃ b, parse (pre ++ [.ofString level.flag, .ofString n.text]) = .ok b ∧
      Settings.ofArguments b =
        (Settings.ofArguments a).overlay (.ofThreshold level (some n.text)) := by
  have hdisjoint : a.Disjoint (ofThreshold level n.text) := by
    rintro s ⟨hs, hset⟩
    rw [(uses_ofThreshold level _ s).mp hset, ha] at hs
    cases hs
  exact ⟨_, (parse_append_eq_ok_iff hpre hends).mpr ⟨_, parse_threshold level n, hdisjoint, rfl⟩,
    ofArguments_union ha _⟩

end Arguments

/-! ### What a check finds -/

namespace Comparison

variable {c : Comparison} {r : Reading} {level : Level} {raw : String} {e : ThresholdError}

/-- A text that is no threshold makes every verdict unknown. -/
theorem unknown_of_badThreshold (hraw : c.threshold level = some raw)
    (hparse : Threshold.parse raw = .error e) : (c.decide r).severity = .unknown := by
  rw [unknown_iff_cause, ← Option.isSome_iff_exists, cause_decision, List.find?_isSome]
  refine ⟨.badThreshold level, by cases level <;> decide, ?_⟩
  rw [Cause.applies, hraw, Option.any_some, hparse]
  rfl

end Comparison

namespace Settings

/-- The same severity and the same message, whatever answers the query. -/
def Agrees (s s' : Settings) : Prop :=
  ∀ answer, (s.session.run answer).verdict.severity = (s'.session.run answer).verdict.severity ∧
    (s.session.run answer).verdict.message = (s'.session.run answer).verdict.message

variable {s : Settings} {level : Level} {raw : String} {p : Plan}

theorem threshold_overlay (s : Settings) (level : Level) (raw : String) :
    (s.overlay (.ofThreshold level (some raw))).comparison.threshold level = some raw := by
  cases level <;> rfl

/-- No value is judged under a threshold that is none. -/
theorem unknown_of_badThreshold {e : ThresholdError} (hparse : Threshold.parse raw = .error e)
    (hp : (s.overlay (.ofThreshold level (some raw))).plan = .ok p) (text : String) :
    (p.report (.ok text)).verdict.severity = .unknown := by
  obtain ⟨-, host, database, user, password, query, -, -, -, -, -, rfl⟩ := plan_eq_ok_iff.mp hp
  exact Comparison.unknown_of_badThreshold (threshold_overlay s level raw) hparse

/-- Settings that have what is required, and no more. -/
def sparse : Settings :=
  { initial with
    host := some "", database := some "", user := some "", password := some "", query := some "" }

/-- With a single threshold and zero for an answer, the severity is unknown exactly if the
threshold is none. -/
theorem unknown_sparse_iff (level : Level) (raw : String) :
    ((sparse.overlay (.ofThreshold level (some raw))).session.run
        fun _ _ => .ok "0").verdict.severity = .unknown ↔
      Threshold.parse raw = .error ⟨raw⟩ := by
  set c : Comparison := (sparse.overlay (.ofThreshold level (some raw))).comparison
  have hplan : (sparse.overlay (.ofThreshold level (some raw))).plan =
      .ok ⟨⟨"", defaultPort, "", "", ""⟩, "", c, false⟩ := by
    cases level <;> rfl
  rw [run_session, hplan]
  refine ⟨fun h => ?_, fun h => unknown_of_badThreshold h hplan "0"⟩
  obtain ⟨k, hk⟩ := Comparison.unknown_iff_cause.mp h
  have happlies := Comparison.applies_of_cause hk
  -- There is a number and no pattern, so that the cause is the threshold.
  have hnumber : (Reading.ofText "0").number.isNone = false := by decide +kernel
  have hpattern : c.pattern = none := by cases level <;> rfl
  cases k with
  | badPattern => simp [Cause.applies, hpattern] at happlies
  | notNumeric => simp [Cause.applies, hnumber] at happlies
  | badThreshold other =>
    obtain ⟨t, ht, hbad⟩ := (Option.any_eq_true _ _).mp happlies
    have hraw : t = raw := by
      cases level <;> cases other <;> first | exact (Option.some.inj ht).symm | cases ht
    subst hraw
    cases hparse : Threshold.parse t with
    | ok _ =>
      rw [hparse] at hbad
      cases hbad
    | error e => rw [(Threshold.parse_eq_error_iff.mp hparse).1]

end Settings

namespace Layer

open Arguments (EndsInEscape)
open Threshold (Run)

variable {name : String}

/-- **A bare number and the text of its digits.** Between double quotes a number sets its
digits, and after the switch of a line that has not used it yet, the same settings come
about as if such a file were read over those of the line; as a threshold, the number is
the boundary, cut to 64 bits. Bare, the number is accepted and agrees with its digits in
severity and message, over any settings and for any answer, exactly if it is an integer
of 64 bits, or too large for a floating-point number, or has a zero in front that counts
for nothing. In between it is refused, as a wider integer, or else it sets a text that is
no threshold, so that no value is judged. -/
theorem bareThreshold_agrees_iff (level : Level) (hname : name ∈ level.key.names) (n : Run)
    (ended : Bool) :
    parse (entryText name ("\"" ++ n.text ++ "\"") ended) =
      .ok (ofThreshold level (some n.text)) ∧
    (∀ pre a, Arguments.parse pre = .ok a → ¬ EndsInEscape pre → a.uses level.switch = false →
      ∃ b, Arguments.parse (pre ++ [.ofString level.flag, .ofString n.text]) = .ok b ∧
        Settings.ofArguments b =
          (Settings.ofArguments a).overlay (ofThreshold level (some n.text))) ∧
    (∃ high, Threshold.parse n.text = .ok (.upTo high) ∧
      high.toInt = min (n.number : Int) (2 ^ 63 - 1)) ∧
    ((∃ l, parse (entryText name n.text ended) = .ok l ∧
        ∀ s : Settings, (s.overlay l).Agrees (s.overlay (ofThreshold level (some n.text)))) ↔
      n.hasLeadingZero = true ∨ n.number < Scalar.wideStart ∨
        Binary64.overflowStart ≤ n.number) ∧
    (n.hasLeadingZero = false → Scalar.wideStart ≤ n.number → n.number < Scalar.wideEnd →
      parse (entryText name n.text ended) = .error (.misread ⟨some name,
        .wrongType (.scalar (.wideInteger n.number)) "any YAML value"⟩)) ∧
    (n.hasLeadingZero = false → Scalar.wideEnd ≤ n.number →
      n.number < Binary64.overflowStart →
      ∃ raw, parse (entryText name n.text ended) = .ok (ofThreshold level (some raw)) ∧
        ∀ (s : Settings) (p : Plan) (text : String),
          (s.overlay (ofThreshold level (some raw))).plan = .ok p →
          (p.report (.ok text)).verdict.severity = .unknown) := by
  have hthreshold : Threshold.parse n.text = .ok (.upTo n.boundary) :=
    Threshold.parse_text (.upTo n)
  refine ⟨parse_quoted_digits hname n ended,
    fun pre a hpre hends ha => Arguments.parse_append_threshold hpre hends ha n,
    ⟨n.boundary, hthreshold, n.toInt_boundary⟩, ⟨?_, ?_⟩, ?_, ?_⟩
  · rintro ⟨l, hl, hagrees⟩
    -- Otherwise the file is refused, or it sets something else.
    by_contra hlost
    rw [not_or, not_or, Bool.not_eq_true, Nat.not_lt, Nat.not_le] at hlost
    obtain ⟨hzero, hstart, hfinite⟩ := hlost
    by_cases hend : n.number < Scalar.wideEnd
    · rw [parse_digits_wide hname hzero hstart hend] at hl
      cases hl
    · rw [parse_digits_float hname hzero (Nat.not_lt.mp hend) hfinite] at hl
      obtain rfl := Except.ok.inj hl
      -- That is no threshold, and the digits are one. Zero tells them apart.
      have hsame := (hagrees Settings.sparse fun _ _ => .ok "0").1
      have hunknown := (Settings.unknown_sparse_iff level n.text).mp
        (hsame.symm.trans ((Settings.unknown_sparse_iff level _).mpr (Threshold.parse_render _)))
      rw [hthreshold] at hunknown
      cases hunknown
  · intro hkept
    exact ⟨_, parse_digits_of_kept hname hkept ended, fun s answer => ⟨rfl, rfl⟩⟩
  · exact fun hzero hstart hend => parse_digits_wide hname hzero hstart hend ended
  · intro hzero hend hfinite
    refine ⟨_, parse_digits_float hname hzero hend hfinite ended, fun s p text hp => ?_⟩
    exact Settings.unknown_of_badThreshold (Threshold.parse_render _) hp text

/-- Past the signed integers of 64 bits a bare number still agrees, under a name with a
colon in front. Past all integers no value is judged, not even zero. -/
theorem bareThreshold_agrees_saturated :
    (∃ l, parse ":crit: 9223372036854775808\n" = .ok l ∧
      ∀ s : Settings, (s.overlay l).Agrees
        (s.overlay (ofThreshold .critical (some "9223372036854775808")))) ∧
    (∃ a, Arguments.parse [.ofString "-c", .ofString "9223372036854775808"] = .ok a ∧
      Settings.ofArguments a = (Settings.ofArguments .none).overlay
        (ofThreshold .critical (some "9223372036854775808"))) ∧
    ∃ raw p, parse "warn: 340282366920938463463374607431768211456" =
        .ok (ofThreshold .warning (some raw)) ∧
      (Settings.sparse.overlay (ofThreshold .warning (some raw))).plan = .ok p ∧
      (p.report (.ok "0")).verdict.severity = .unknown := by
  have hdigits : Run.text (.ofString "9223372036854775808" (by decide)) = "9223372036854775808" :=
    Run.text_ofString _ _
  have hlong : Run.text (.ofString "340282366920938463463374607431768211456" (by decide)) =
      "340282366920938463463374607431768211456" := Run.text_ofString _ _
  obtain ⟨-, hswitch, -, hagrees, -, -⟩ := bareThreshold_agrees_iff .critical
    (show ":crit" ∈ _ by decide) (.ofString "9223372036854775808" (by decide)) true
  obtain ⟨-, -, -, -, -, hfloat⟩ := bareThreshold_agrees_iff .warning (show "warn" ∈ _ by decide)
    (.ofString "340282366920938463463374607431768211456" (by decide)) false
  have hentries : entryText ":crit" "9223372036854775808" true =
        ":crit: 9223372036854775808\n" ∧
      entryText "warn" "340282366920938463463374607431768211456" false =
        "warn: 340282366920938463463374607431768211456" := by
    decide +kernel
  rw [hdigits, hentries.1] at hagrees
  rw [hdigits] at hswitch
  rw [hlong, hentries.2] at hfloat
  refine ⟨hagrees.mpr (.inr (.inl (by decide +kernel))), ?_, ?_⟩
  · exact hswitch [] .none rfl (fun ⟨init, h, _⟩ => absurd h (by simp)) rfl
  · obtain ⟨raw, hraw, hunknown⟩ :=
      hfloat (by decide +kernel) (by decide +kernel) (by decide +kernel)
    exact ⟨raw, _, hraw, rfl, hunknown Settings.sparse _ _ rfl⟩

/-- Past the integers of 64 bits, a number is a threshold between quotes, and refused
without them. -/
theorem not_bareThreshold_agrees :
    parse "warn: \"99999999999999999999\"\n" =
        .ok (ofThreshold .warning (some "99999999999999999999")) ∧
      Threshold.parse "99999999999999999999" = .ok (.upTo Int64.maxValue) ∧
      parse "warn: 99999999999999999999\n" = .error (.misread ⟨some "warn",
        .wrongType (.scalar (.wideInteger 99999999999999999999)) "any YAML value"⟩) := by
  let n : Run := .ofString "99999999999999999999" (by decide)
  have hname : "warn" ∈ Level.warning.key.names := by decide
  have hquoted := parse_quoted_digits hname n true
  have hwide := parse_digits_wide hname (n := n) (by decide +kernel) (by decide +kernel)
    (by decide +kernel) true
  have htext : n.text = "99999999999999999999" := Run.text_ofString _ _
  have hnumber : n.number = 99999999999999999999 := by decide +kernel
  have hentries : entryText "warn" ("\"" ++ "99999999999999999999" ++ "\"") true =
        "warn: \"99999999999999999999\"\n" ∧
      entryText "warn" "99999999999999999999" true = "warn: 99999999999999999999\n" := by
    decide +kernel
  rw [htext, hentries.1] at hquoted
  rw [htext, hentries.2, hnumber] at hwide
  exact ⟨hquoted, by decide +kernel, hwide⟩

end Layer

end SqlProbe
