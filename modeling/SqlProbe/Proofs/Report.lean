import SqlProbe.Report

/-!
# The status line

The supervisor reads one line, while the message in it may quote anything: a query
result, an argument, a pattern, the content of a file. Flattening turns every line
break of such a text into a blank and keeps everything else
(`Report.flatten_of_oneLine`), so that whatever the message is, the line ends where the
report ends it (`Report.oneLine_flatten`).

A report that there are no settings has nothing but this line, whether it is verbose or
not (`Report.text_ofSettingsError`), and the exit code of an unknown status
(`Report.exitCode_ofSettingsError`).
-/

namespace SqlProbe

namespace Report

variable {s t : String}

/-- A text without line breaks. -/
def OneLine (s : String) : Prop := ∀ c ∈ s.toList, c ≠ '\r' ∧ c ≠ '\n'

instance (s : String) : Decidable (OneLine s) :=
  List.decidableBAll _ s.toList

theorem oneLine_append : OneLine (s ++ t) ↔ OneLine s ∧ OneLine t := by
  rw [OneLine, String.toList_append]
  exact List.forall_mem_append

/-! ### Flattening -/

theorem toList_flatten (s : String) : (flatten s).toList = s.toList.map flattenChar :=
  String.toList_map

@[simp] theorem flatten_append (s t : String) : flatten (s ++ t) = flatten s ++ flatten t := by
  rw [← String.toList_inj, toList_flatten, String.toList_append, String.toList_append,
    toList_flatten, toList_flatten, List.map_append]

/-- A flattened text has no line break. -/
theorem oneLine_flatten (s : String) : OneLine (flatten s) := by
  intro c hc
  rw [toList_flatten] at hc
  obtain ⟨d, -, rfl⟩ := List.mem_map.mp hc
  rw [flattenChar]
  split
  · decide
  · next h => exact not_or.mp h

/-- A text without line breaks stays as it is. -/
theorem flatten_of_oneLine (h : OneLine s) : flatten s = s := by
  rw [← String.toList_inj, toList_flatten]
  have hkeep : ∀ c ∈ s.toList, flattenChar c = c := fun c hc => if_neg (not_or.mpr (h c hc))
  rw [List.map_congr_left hkeep, List.map_id']

/-! ### Reports without settings -/

theorem text_ofSettingsError (e : SettingsError) (verbose : Bool) :
    (ofSettingsError e verbose).text = "UNKNOWN: " ++ flatten e.message ++ "\n" := by
  have hlabel : flatten (Severity.unknown.label ++ ": ") = "UNKNOWN: " := by decide +kernel
  -- There are no notes, so that it does not matter whether they are printed.
  have hnotes : (if verbose then String.join [] else "") = "" := ite_self _
  have hline : (ofSettingsError e verbose).statusLine = "UNKNOWN: " ++ flatten e.message := by
    rw [← hlabel, ← flatten_append]
    rfl
  calc (ofSettingsError e verbose).text
      = (if verbose then String.join [] else "") ++
          (ofSettingsError e verbose).statusLine ++ "\n" := rfl
    _ = "UNKNOWN: " ++ flatten e.message ++ "\n" := by rw [hnotes, hline, String.empty_append]

theorem exitCode_ofSettingsError (e : SettingsError) (verbose : Bool) :
    (ofSettingsError e verbose).exitCode = 3 := by
  cases verbose <;> rfl

end Report

end SqlProbe
