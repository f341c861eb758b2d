import SqlProbe.Proofs.Settings.Fields

/-!
# The last file wins

Settings with the texts of several files laid over them one after the other, where a text
that is no file of settings is passed over. What becomes of a field can be told without
the settings in between: it has the value that the last text gives it which gives it one
(`lastGiven`), and the value from the start if no text does (`Settings.get_withTexts`).

The step is `Settings.get_withText`, one text over settings, and a run of texts follows
by induction. From the law for one field follows all else, since settings are their
fields: texts that give nothing can be left out, a text can be given twice in a row, and
what is absent in the end was absent from the start
(`Settings.withTexts_last_writer`).
-/

namespace SqlProbe

/-- What a text gives a field: the value in the layer that it is read as, if it is read
as one and sets the field. -/
def given (text : String) (k : FileKey) : Option k.Content :=
  match Layer.parse text with
  | .ok l => l.get k
  | .error _ => none

/-- The value given last. -/
def lastGiven (texts : List String) (k : FileKey) : Option k.Content :=
  texts.reverse.findSome? fun text => given text k

section

variable {text : String} {texts : List String} {k : FileKey}

/-- A later text wins over the first one. -/
theorem lastGiven_cons : lastGiven (text :: texts) k = (lastGiven texts k).or (given text k) := by
  rw [lastGiven, List.reverse_cons, List.findSome?_append, lastGiven]
  cases h : given text k <;> simp [h]

/-- Which value is given last. -/
theorem lastGiven_eq_some_iff {v : k.Content} : lastGiven texts k = some v ↔
    ∃ earlier text later, texts = earlier ++ text :: later ∧ given text k = some v ∧
      ∀ t ∈ later, given t k = none := by
  rw [lastGiven, List.findSome?_eq_some_iff]
  constructor
  · rintro ⟨later, text, earlier, h, hv, hlater⟩
    refine ⟨earlier.reverse, text, later.reverse, ?_, hv, fun t ht => ?_⟩
    · rw [← List.reverse_inj, h]
      simp
    · exact hlater t (List.mem_reverse.mp ht)
  · rintro ⟨earlier, text, later, rfl, hv, hlater⟩
    refine ⟨later.reverse, text, earlier.reverse, by simp, hv, fun t ht => ?_⟩
    exact hlater t (List.mem_reverse.mp ht)

theorem lastGiven_eq_none_iff : lastGiven texts k = none ↔ ∀ t ∈ texts, given t k = none := by
  simp only [lastGiven, List.findSome?_eq_none_iff, List.mem_reverse]

end

namespace Settings

variable {s : Settings} {text : String} {texts : List String}

/-- The settings with a text over them, which changes nothing if it is no file of
settings. -/
def withText (s : Settings) (text : String) : Settings :=
  match Layer.parse text with
  | .ok l => s.overlay l
  | .error _ => s

/-- The settings with some texts over them, one after the other. -/
def withTexts (s : Settings) (texts : List String) : Settings := texts.foldl withText s

/-! ### One text -/

theorem withText_of_ok {l : Layer} (h : Layer.parse text = .ok l) :
    s.withText text = s.overlay l := by
  rw [withText, h]

theorem withText_of_error {e : DocumentError} (h : Layer.parse text = .error e) :
    s.withText text = s := by
  rw [withText, h]

/-- **One text.** It gives a field a value, or leaves it as it is. -/
theorem get_withText (s : Settings) (text : String) (k : FileKey) :
    (s.withText text).get k = (given text k).or (s.get k) := by
  cases h : Layer.parse text with
  | ok l => rw [withText_of_ok h, get_overlay, given, h]
  | error e => rw [withText_of_error h, given, h, Option.none_or]

@[simp] theorem file_withText (s : Settings) (text : String) : (s.withText text).file = s.file := by
  rw [withText]
  split <;> rfl

theorem missing_withText_sublist (s : Settings) (text : String) :
    (s.withText text).missing.Sublist s.missing := by
  rw [withText]
  split
  · exact missing_overlay_sublist s _
  · exact .refl _

/-! ### Any number of texts -/

/-- **The last text wins.** A field has the value given last, or the one from the start. -/
theorem get_withTexts (s : Settings) (texts : List String) (k : FileKey) :
    (s.withTexts texts).get k = (lastGiven texts k).or (s.get k) := by
  induction texts generalizing s with
  | nil => rfl
  | cons text texts ih =>
    calc (s.withTexts (text :: texts)).get k
        = (lastGiven texts k).or ((s.withText text).get k) := ih (s.withText text)
      _ = (lastGiven texts k).or ((given text k).or (s.get k)) := by rw [get_withText]
      _ = (lastGiven (text :: texts) k).or (s.get k) := by rw [lastGiven_cons, Option.or_assoc]

@[simp] theorem file_withTexts (s : Settings) (texts : List String) :
    (s.withTexts texts).file = s.file := by
  induction texts generalizing s with
  | nil => rfl
  | cons text texts ih => exact (ih (s.withText text)).trans (file_withText s text)

theorem missing_withTexts_sublist (s : Settings) (texts : List String) :
    (s.withTexts texts).missing.Sublist s.missing := by
  induction texts generalizing s with
  | nil => exact .refl _
  | cons text texts ih => exact (ih (s.withText text)).trans (missing_withText_sublist s text)

/-- Only the values given last count. -/
theorem withTexts_congr {texts texts' : List String}
    (h : ∀ k, lastGiven texts k = lastGiven texts' k) : s.withTexts texts = s.withTexts texts' := by
  refine ext_get (fun k => ?_) ?_
  · rw [get_withTexts, get_withTexts, h k]
  · rw [file_withTexts, file_withTexts]

/-- Texts that are no files of settings give nothing. -/
theorem lastGiven_filter {keep : String → Bool}
    (hkeep : ∀ text, keep text = false → ∃ e, Layer.parse text = .error e) (texts : List String)
    (k : FileKey) : lastGiven (texts.filter keep) k = lastGiven texts k := by
  induction texts with
  | nil => rfl
  | cons text texts ih =>
    cases htext : keep text with
    | true =>
      rw [List.filter_cons_of_pos htext, lastGiven_cons, lastGiven_cons, ih]
    | false =>
      obtain ⟨e, he⟩ := hkeep text htext
      have hnone : given text k = none := by rw [given, he]
      rw [List.filter_cons_of_neg (by simp [htext]), lastGiven_cons, ih, hnone, Option.or_none]

/-- A text gives no more the second time. -/
theorem lastGiven_twice (pre post : List String) (text : String) (k : FileKey) :
    lastGiven (pre ++ text :: text :: post) k = lastGiven (pre ++ text :: post) k := by
  induction pre with
  | nil =>
    have hself : ∀ o : Option k.Content, o.or o = o := fun o => by cases o <;> rfl
    simp only [List.nil_append, lastGiven_cons, Option.or_assoc, hself]
  | cons first pre ih => simp only [List.cons_append, lastGiven_cons, ih]

/-- **The last writer wins.** After any texts, a field has the value that the last text
gives it which gives it one, and the value from the start if none does; the name of the
file is never changed. Texts that are no files of settings can be left out, and a text can
be given twice in a row. Two layers are the one in which the later wins. And what is
absent in the end was absent from the start, in the same order. -/
theorem withTexts_last_writer (s : Settings) (texts : List String) :
    (∀ k, (∀ earlier text later v, texts = earlier ++ text :: later → given text k = some v →
          (∀ t ∈ later, given t k = none) → (s.withTexts texts).get k = some v) ∧
        ((∀ t ∈ texts, given t k = none) → (s.withTexts texts).get k = s.get k)) ∧
    (s.withTexts texts).file = s.file ∧
    (∀ keep : String → Bool, (∀ text, keep text = false → ∃ e, Layer.parse text = .error e) →
      s.withTexts (texts.filter keep) = s.withTexts texts) ∧
    (∀ pre text post, texts = pre ++ text :: post →
      s.withTexts (pre ++ text :: text :: post) = s.withTexts texts) ∧
    (∀ f g : Layer, (s.overlay f).overlay g = s.overlay (g.atop f) ∧
      ∀ k, (g.atop f).get k = (g.get k).or (f.get k)) ∧
    (s.withTexts texts).missing.Sublist s.missing := by
  refine ⟨fun k => ⟨?_, ?_⟩, file_withTexts s texts, fun keep hkeep => ?_, ?_,
    fun f g => ⟨overlay_overlay s f g, Layer.get_atop g f⟩, missing_withTexts_sublist s texts⟩
  · intro earlier text later v htexts hv hlater
    have hlast : lastGiven texts k = some v :=
      lastGiven_eq_some_iff.mpr ⟨earlier, text, later, htexts, hv, hlater⟩
    rw [get_withTexts, hlast, Option.some_or]
  · intro hnone
    rw [get_withTexts, lastGiven_eq_none_iff.mpr hnone, Option.none_or]
  · exact withTexts_congr (lastGiven_filter hkeep texts)
  · rintro pre text post rfl
    exact withTexts_congr (lastGiven_twice pre post text)

end Settings

end SqlProbe
