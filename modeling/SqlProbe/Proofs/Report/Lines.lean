import Mathlib.Data.List.Infix
import SqlProbe.Proofs.Report

/-!
# Reading a report back

A report is a text, and whoever reads it has nothing else. The supervisor cuts it at
its line feeds (`Report.lines`), takes the line that the last of them ends, and reads
the label that this line begins with (`Report.readBack?`).

Whatever the notes and the message contain, this gives back the severity and the
flattened message (`Report.readBack?_text`). Two things carry it. The status line has no
line feed in it, so that cutting the report leaves it whole, as the last line
(`Report.lines_text`); and no label with its colon begins another one, so that only its
own label fits a line (`Report.readStatus?_eq_some_iff`).

The lines for an operator are another matter: a note is not flattened. What is printed
about a note is one line exactly if the note has no line feed
(`Report.length_noteLines_eq_one_iff`), and all of these lines are marked as such exactly
if no note has one (`Report.marksNotes_iff`).

`Report.text_readable` says all that can be known from what is printed.
-/

namespace SqlProbe

namespace Severity

/-- Every severity, in the order of severity. -/
def all : List Severity := [ok, warning, critical, unknown]

end Severity

namespace Report

variable {s : String}

/-! ### Lines -/

/-- The texts before, between and after the line feeds of a text. The last of them is
empty if the text ends in a line feed. -/
def lines (s : String) : List String := (s.toList.splitOn '\n').map String.ofList

/-- A line feed between two texts separates their lines. -/
theorem lines_append (s t : String) : lines (s ++ "\n" ++ t) = lines s ++ lines t := by
  have hchars : (s ++ "\n" ++ t).toList = s.toList ++ '\n' :: t.toList := by
    simp [String.toList_append]
  have hsplit : (s.toList ++ '\n' :: t.toList).splitOn '\n' =
      s.toList.splitOn '\n' ++ t.toList.splitOn '\n' :=
    List.splitOnP_append_cons s.toList t.toList (beq_self_eq_true '\n')
  rw [lines, hchars, hsplit, List.map_append]
  rfl

/-- A text without line feeds is one line. -/
theorem lines_of_notMem (h : '\n' ∉ s.toList) : lines s = [s] := by
  have hsplit : s.toList.splitOn '\n' = [s.toList] := by
    simpa using List.splitOn_intercalate '\n' (List.forall_mem_singleton.mpr h)
      (List.cons_ne_nil s.toList [])
  rw [lines, hsplit, List.map_singleton, String.ofList_toList]

theorem lines_empty : lines "" = [""] := lines_of_notMem List.not_mem_nil

theorem length_lines_pos (s : String) : 0 < (lines s).length := by
  rw [lines, List.length_map, List.length_pos_iff]
  exact List.splitOn_ne_nil _ _

/-- Hence a text is one line exactly if it has no line feed. -/
theorem length_lines_eq_one_iff : (lines s).length = 1 ↔ '\n' ∉ s.toList := by
  refine ⟨fun hone hmem => ?_, fun h => by rw [lines_of_notMem h, List.length_singleton]⟩
  obtain ⟨before, after, hchars⟩ := List.append_of_mem hmem
  have hs : s = String.ofList before ++ "\n" ++ String.ofList after := by
    rw [← String.toList_inj, hchars]
    simp [String.toList_append]
  -- Cut at that line feed, there are two lines or more.
  have hbefore := length_lines_pos (String.ofList before)
  have hafter := length_lines_pos (String.ofList after)
  rw [hs, lines_append, List.length_append] at hone
  omega

/-! ### The status line -/

theorem OneLine.notMem (h : OneLine s) : '\n' ∉ s.toList := fun hmem => (h _ hmem).2 rfl

/-- Flattening changes the message only. -/
theorem statusLine_eq (r : Report) :
    r.statusLine = r.verdict.severity.label ++ ": " ++ flatten r.verdict.message := by
  have hlabel : OneLine (r.verdict.severity.label ++ ": ") := by
    cases r.verdict.severity <;> decide +kernel
  rw [statusLine, Verdict.line, flatten_append, flatten_of_oneLine hlabel]

theorem oneLine_statusLine (r : Report) : OneLine r.statusLine := oneLine_flatten _

/-- No label with its colon begins another one. -/
theorem eq_of_label_isPrefix {a b : Severity}
    (h : (a.label ++ ": ").toList <+: (b.label ++ ": ").toList) : a = b := by
  revert h
  cases a <;> cases b <;> decide +kernel

/-- Hence a line tells its label from its message. -/
theorem eq_of_line_eq {a b : Severity} {m n : String}
    (h : a.label ++ ": " ++ m = b.label ++ ": " ++ n) : a = b ∧ m = n := by
  have hchars : (a.label ++ ": ").toList ++ m.toList = (b.label ++ ": ").toList ++ n.toList := by
    rw [← String.toList_append, ← String.toList_append, h]
  have hm := List.prefix_append (a.label ++ ": ").toList m.toList
  rw [hchars] at hm
  -- Both labels begin the same text, so that one of them begins the other.
  have hlabel : a = b := by
    rcases List.prefix_or_prefix_of_prefix hm (List.prefix_append ..) with hp | hp
    · exact eq_of_label_isPrefix hp
    · exact (eq_of_label_isPrefix hp).symm
  subst hlabel
  exact ⟨rfl, String.toList_inj.mp (List.append_cancel_left hchars)⟩

/-- The severity and the message on a status line, if it is one. -/
def readStatus? (line : String) : Option (Severity × String) :=
  Severity.all.findSome? fun severity =>
    (line.toList.dropPrefix? (severity.label ++ ": ").toList).map fun message =>
      (severity, String.ofList message)

/-- Reading a line undoes writing it. -/
theorem readStatus?_eq_some_iff {line : String} {a : Severity} {m : String} :
    readStatus? line = some (a, m) ↔ line = a.label ++ ": " ++ m := by
  -- One direction is that what is read was written, whatever else could have been.
  have hsound : ∀ {b : Severity} {n : String}, readStatus? line = some (b, n) →
      line = b.label ++ ": " ++ n := by
    intro b n h
    obtain ⟨b', -, hb⟩ := List.exists_of_findSome?_eq_some h
    obtain ⟨rest, hrest, heq⟩ := Option.map_eq_some_iff.mp hb
    obtain ⟨rfl, rfl⟩ := Prod.mk.inj heq
    obtain ⟨label, hline, hlabel⟩ := List.dropPrefix?_eq_some_iff.mp hrest
    rw [← String.toList_inj, String.toList_append, String.toList_ofList, hline, eq_of_beq hlabel]
  refine ⟨hsound, fun h => ?_⟩
  have hsome : (readStatus? line).isSome := by
    rw [readStatus?, List.findSome?_isSome_iff]
    refine ⟨a, by cases a <;> decide, ?_⟩
    rw [h, String.toList_append, List.dropPrefix?_append_of_beq _ (beq_self_eq_true _)]
    rfl
  obtain ⟨⟨b, n⟩, hread⟩ := Option.isSome_iff_exists.mp hsome
  obtain ⟨rfl, rfl⟩ := eq_of_line_eq (h.symm.trans (hsound hread))
  exact hread

/-! ### What is printed -/

/-- The lines that are printed about a note. -/
def noteLines (note : String) : List String := lines ("+ " ++ note)

/-- The lines for an operator that a report prints. -/
def operatorLines (r : Report) : List String :=
  if r.verbose then r.notes.flatMap noteLines else []

/-- What a report prints before its status line. -/
def operatorText (r : Report) : String :=
  if r.verbose then String.join (r.notes.map fun note => "+ " ++ note ++ "\n") else ""

theorem text_eq (r : Report) : r.text = r.operatorText ++ r.statusLine ++ "\n" := rfl

/-- It is empty or ends in a line feed. -/
theorem operatorText_ends (r : Report) :
    r.operatorText = "" ∨ ∃ before, r.operatorText = before ++ "\n" := by
  rw [operatorText]
  split
  · rcases List.eq_nil_or_concat r.notes with h | ⟨notes, note, h⟩
    · left
      rw [h]
      rfl
    · right
      refine ⟨String.join (notes.map fun note => "+ " ++ note ++ "\n") ++ ("+ " ++ note), ?_⟩
      rw [h, List.concat_eq_append, List.map_append, String.join_append, String.append_assoc]
      simp
  · exact .inl rfl

/-- Each note puts its own lines in front of what follows. -/
theorem lines_join_notes (notes : List String) (t : String) :
    lines (String.join (notes.map fun note => "+ " ++ note ++ "\n") ++ t) =
      notes.flatMap noteLines ++ lines t := by
  induction notes with
  | nil => simp
  | cons note notes ih =>
    rw [List.map_cons, String.join_cons, String.append_assoc, lines_append, ih, List.flatMap_cons,
      List.append_assoc]
    rfl

/-- **The lines of a report.** The status line is the last one, and it is whole. -/
theorem lines_text (r : Report) : lines r.text = r.operatorLines ++ [r.statusLine, ""] := by
  have hstatus : lines (r.statusLine ++ "\n") = [r.statusLine, ""] := by
    have h := lines_append r.statusLine ""
    rwa [String.append_empty, lines_of_notMem (oneLine_statusLine r).notMem, lines_empty] at h
  rw [text_eq, String.append_assoc, operatorText, operatorLines]
  split
  · rw [lines_join_notes, hstatus]
  · rw [String.empty_append, hstatus, List.nil_append]

/-- The status that a text ends with: that of the line before its last line feed. -/
def readBack? (printed : String) : Option (Severity × String) :=
  match (lines printed).reverse with
  | "" :: line :: _ => readStatus? line
  | _ => none

/-- Whatever is printed before, the status is read back. -/
theorem readBack?_text (r : Report) :
    readBack? r.text = some (r.verdict.severity, flatten r.verdict.message) := by
  rw [readBack?, lines_text, List.reverse_append]
  exact readStatus?_eq_some_iff.mpr (statusLine_eq r)

/-- **A report can be read back.** What it prints ends in a line feed; between that and
the line feed before it, or the beginning, stand the label, a colon, a blank and the
flattened message, with no line break among them, and from the text alone the severity
and the flattened message are read back. A report for the supervisor has nothing but
this line, and the exit code of the severity that is read; any other one has the exit
code of an unknown status. -/
theorem text_readable (r : Report) :
    (∃ before, r.text =
        before ++ (r.verdict.severity.label ++ ": " ++ flatten r.verdict.message) ++ "\n" ∧
      (before = "" ∨ ∃ earlier, before = earlier ++ "\n")) ∧
    OneLine (r.verdict.severity.label ++ ": " ++ flatten r.verdict.message) ∧
    readBack? r.text = some (r.verdict.severity, flatten r.verdict.message) ∧
    (r.verbose = false →
      r.text = r.verdict.severity.label ++ ": " ++ flatten r.verdict.message ++ "\n" ∧
      ∀ severity message, readBack? r.text = some (severity, message) →
        r.exitCode = severity.exitCode) ∧
    (r.verbose = true → r.exitCode = 3) := by
  rw [← statusLine_eq]
  refine ⟨⟨r.operatorText, text_eq r, operatorText_ends r⟩, oneLine_statusLine r,
    readBack?_text r, fun hquiet => ⟨?_, ?_⟩, fun hverbose => ?_⟩
  · rw [text_eq, operatorText, hquiet]
    exact congrArg (· ++ "\n") String.empty_append
  · intro severity message hread
    obtain ⟨rfl, -⟩ := Prod.mk.inj (Option.some.inj ((readBack?_text r).symm.trans hread))
    rw [exitCode, hquiet]
    rfl
  · rw [exitCode, hverbose]
    rfl

/-! ### Lines for an operator -/

/-- The mark has no line feed of its own. -/
theorem mem_marked_iff {note : String} :
    '\n' ∈ ("+ " ++ note).toList ↔ '\n' ∈ note.toList := by
  rw [String.toList_append, List.mem_append, or_iff_right (by decide +kernel)]

/-- A note without line feeds is printed as one line. -/
theorem noteLines_of_notMem {note : String} (h : '\n' ∉ note.toList) :
    noteLines note = ["+ " ++ note] :=
  lines_of_notMem (mt mem_marked_iff.mp h)

/-- Any other note is printed as several. -/
theorem length_noteLines_eq_one_iff {note : String} :
    (noteLines note).length = 1 ↔ '\n' ∉ note.toList := by
  rw [noteLines, length_lines_eq_one_iff, mem_marked_iff]

/-- There are at least as many lines as notes, and no more exactly if no note has a line
feed. -/
theorem length_flatMap_noteLines_eq_iff (notes : List String) :
    (notes.flatMap noteLines).length = notes.length ↔ ∀ note ∈ notes, '\n' ∉ note.toList := by
  have hle : ∀ notes : List String, notes.length ≤ (notes.flatMap noteLines).length := by
    intro notes
    induction notes with
    | nil => exact Nat.le_refl 0
    | cons note notes ih =>
      have hnote := length_lines_pos ("+ " ++ note)
      rw [List.flatMap_cons, List.length_append, List.length_cons, noteLines]
      omega
  induction notes with
  | nil => simp
  | cons note notes ih =>
    have hnote : 0 < (noteLines note).length := length_lines_pos ("+ " ++ note)
    have hnotes := hle notes
    rw [List.flatMap_cons, List.length_append, List.length_cons]
    constructor
    · intro hlength
      have hone : (noteLines note).length = 1 := by omega
      have hrest : (notes.flatMap noteLines).length = notes.length := by omega
      exact List.forall_mem_cons.mpr ⟨length_noteLines_eq_one_iff.mp hone, ih.mp hrest⟩
    · intro hfeed
      obtain ⟨hfirst, hrest⟩ := List.forall_mem_cons.mp hfeed
      have hone := length_noteLines_eq_one_iff.mpr hfirst
      have hlength := ih.mpr hrest
      omega

/-- Whether the lines before the status line are marked as lines for an operator, one
for each note. -/
def MarksNotes (r : Report) : Prop :=
  ∃ marked, lines r.text = marked ++ [r.statusLine, ""] ∧ marked.length = r.notes.length ∧
    ∀ line ∈ marked, "+ ".toList <+: line.toList

/-- **When every line is marked.** It takes notes without line feeds. -/
theorem marksNotes_iff {r : Report} (h : r.verbose = true) :
    r.MarksNotes ↔ ∀ note ∈ r.notes, '\n' ∉ note.toList := by
  have hlines : lines r.text = r.notes.flatMap noteLines ++ [r.statusLine, ""] := by
    rw [lines_text, operatorLines, if_pos h]
  rw [← length_flatMap_noteLines_eq_iff]
  constructor
  · rintro ⟨marked, hmarked, hlength, -⟩
    rw [← hlength, List.append_cancel_right (hlines.symm.trans hmarked)]
  · intro hlength
    refine ⟨r.notes.flatMap noteLines, hlines, hlength, fun line hline => ?_⟩
    obtain ⟨note, hnote, hline⟩ := List.mem_flatMap.mp hline
    have hfeed := (length_flatMap_noteLines_eq_iff r.notes).mp hlength note hnote
    rw [noteLines_of_notMem hfeed, List.mem_singleton] at hline
    rw [hline, String.toList_append]
    exact List.prefix_append ..

end Report

end SqlProbe
