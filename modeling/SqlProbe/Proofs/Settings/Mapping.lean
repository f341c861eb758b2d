import SqlProbe.Proofs.Settings.Entries
import SqlProbe.Proofs.Yaml.Digits
import SqlProbe.Proofs.Yaml.Lines

/-!
# Mappings of settings

Any layer can be written as a file, one line for each field, in any order and under any
of the names of the fields (`Layer.fileOf`): texts between double quotes, numbers and
words bare, and an absent field as null or not at all. Such a file is a mapping that holds
the layer (`Layer.isFile_fileOf`), so that there is a file of every layer
(`Layer.isFile_file`).

In whatever form a mapping holds a layer, it is read as this layer
(`Layer.parse_mapping`), with one exception. Zero is an integer that can be written with
a minus sign, but a port cannot be (`Layer.not_parse_minus_zero`).
-/

namespace SqlProbe

open Yaml (Node Document Line Scalar isWord)

/-- How a field is written: whether between quotes, and as what. -/
def FieldKind.written : (κ : FieldKind) → Option κ.Content → Bool × List Char
  | _, none => (false, "null".toList)
  | text, some v => (true, String.toList v)
  | port, some v => (false, Nat.toDigits 10 (UInt16.toNat v))
  | truth, some v => (false, (Yaml.Value.boolText v).toList)
  | format, some v => (false, (LogFormat.name v).toList)

namespace Layer

variable {f : Layer} {d : Document} {k : FileKey} {name : String}
  {names : List (FileKey × String)}

/-- The line of a field under a name. -/
def line (f : Layer) (k : FileKey) (name : String) : Line where
  key := name.toList
  quoted := (k.kind.written (f.get k)).1
  value := (k.kind.written (f.get k)).2

/-- The file of some fields, each under a name of its own choice. -/
def fileOf (f : Layer) (names : List (FileKey × String)) : String :=
  String.ofList ((names.map fun p => f.line p.1 p.2).flatMap Line.text)

/-- The file of all fields, the absent ones as null. -/
def file (f : Layer) : String := f.fileOf (FileKey.all.map fun k => (k, k.name))

/-! ### What is written -/

/-- Digits are a word. -/
theorem isWord_digits {ds : List Char} (hrun : Numeral.PlainRun Digit.isDecimal ds ds) :
    isWord ds = true := by
  have hword : ∀ c ∈ ds, Yaml.isName c = true ∧ c ≠ '-' ∧ c ≠ ':' := by
    intro c hc
    have hdigit : c.isDigit = true := hrun.all c hc
    refine ⟨by simp [Yaml.isName, Char.isAlphanum, hdigit], ?_, ?_⟩ <;>
      (rintro rfl; exact absurd hdigit (by decide))
  obtain ⟨c, names, rfl⟩ := List.exists_cons_of_ne_nil hrun.ne_nil
  rw [List.forall_mem_cons] at hword
  obtain ⟨⟨hc, hhyphen, hcolon⟩, hnames⟩ := hword
  have hall : names.all Yaml.isName = true := List.all_eq_true.mpr fun c hc => (hnames c hc).1
  simp [isWord, Yaml.isWordStart_of_isName hc, hall, hhyphen, hcolon]

theorem isWord_written {κ : FieldKind} {v : Option κ.Content}
    (hbare : (κ.written v).1 = false) : isWord (κ.written v).2 = true := by
  cases v with
  | none => cases κ <;> decide
  | some v =>
    cases κ with
    | text => cases hbare
    | port => exact isWord_digits (Digit.plainRun_toDigits _)
    | truth => cases v <;> decide
    | format => cases v <;> decide

theorem valid_line (hname : name ∈ k.names) : (f.line k name).Valid := by
  have hnames : ∀ name ∈ k.names, isWord name.toList = true ∧ name.toList.head? ≠ some '-' ∧
      4 * name.toList.length ≤ 1024 := by
    cases k <;> decide
  obtain ⟨hword, hhyphen, hshort⟩ := hnames name hname
  exact ⟨hword, hhyphen, hshort, isWord_written⟩

/-- What is written says what the field is. -/
theorem says_written (κ : FieldKind) (v : Option κ.Content) :
    (Node.scalar .none (if (κ.written v).1 then .doubleQuoted else .plain)
      (String.ofList (κ.written v).2)).Says (κ.said v) := by
  have hplain : ∀ {text : String} {s : Scalar}, Scalar.ofPlain text = s →
      (Node.scalar .none .plain text).Says s :=
    fun h => .intro rfl (congrArg Except.ok h) (.inl rfl)
  cases v with
  | none =>
    have hnull : Scalar.ofPlain "null" = .null := by decide +kernel
    cases κ <;> exact hplain hnull
  | some v =>
    cases κ with
    | text =>
      have htext : ∀ t : String,
          Yaml.scalarOf none .doubleQuoted (String.ofList t.toList) = .ok (.text t) := by
        intro t
        rw [String.ofList_toList]
        rfl
      exact .intro rfl (htext v) (.inr ⟨v, rfl⟩)
    | port =>
      have hport : UInt16.toNat v < Scalar.wideStart :=
        Nat.lt_trans (UInt16.toNat_lt v) (by decide)
      exact hplain (Scalar.ofPlain_toDigits hport)
    | truth =>
      have hwords : Scalar.ofPlain "true" = .bool true ∧ Scalar.ofPlain "false" = .bool false := by
        decide +kernel
      cases v
      · exact hplain hwords.2
      · exact hplain hwords.1
    | format =>
      have hwords : Scalar.ofPlain "text" = .text "text" ∧
          Scalar.ofPlain "json" = .text "json" := by
        decide +kernel
      cases v
      · exact hplain hwords.1
      · exact hplain hwords.2

/-- A port is not written with a minus sign. -/
theorem head?_written_port (v : Option UInt16) :
    (FieldKind.port.written v).2.head? ≠ some '-' := by
  cases v with
  | none => decide
  | some v =>
    intro h
    exact absurd (Digit.isDecimal_of_mem_toDigits (List.mem_of_mem_head? h)) (by decide)

theorem namedBy_line_iff {k' : FileKey} (hname : name ∈ k.names) :
    k'.NamedBy d (f.line k name).entry.1 ↔ k' = k := by
  have hkey : d.keyText? (f.line k name).entry.1 = some name :=
    congrArg some String.ofList_toList
  rw [FileKey.namedBy_iff hkey, FileKey.ofName?_eq_some_iff.mpr hname, Option.some.injEq, eq_comm]

/-- **A layer is read back** from the file of fields, if all that it sets are among them
and each of them once, under one of its names. -/
theorem isFile_fileOf (hne : names ≠ []) (hnames : ∀ p ∈ names, p.2 ∈ p.1.names)
    (honce : (names.map Prod.fst).Nodup) (hall : ∀ k, f.get k ≠ none → k ∈ names.map Prod.fst) :
    f.IsFile (f.fileOf names) := by
  have hvalid : ∀ line ∈ names.map fun p => f.line p.1 p.2, line.Valid := by
    intro line hline
    obtain ⟨p, hp, rfl⟩ := List.mem_map.mp hline
    exact valid_line (hnames p hp)
  have hentry : ∀ e ∈ (names.map fun p => f.line p.1 p.2).map Line.entry,
      ∃ p ∈ names, e = (f.line p.1 p.2).entry := by
    intro e he
    rw [List.map_map] at he
    obtain ⟨p, hp, rfl⟩ := List.mem_map.mp he
    exact ⟨p, hp, rfl⟩
  refine ⟨_, _, _, Yaml.parse_lines hvalid (by simpa using hne), rfl, ⟨?_, ?_, ?_, ?_⟩, ?_⟩
  · intro e he
    obtain ⟨p, -, rfl⟩ := hentry e he
    exact ⟨_, rfl⟩
  · have hpair : names.Pairwise fun p p' => p.1 ≠ p'.1 := List.pairwise_map.mp honce
    rw [List.map_map, List.pairwise_map]
    refine hpair.imp_of_mem fun {p p'} hp hp' hne k h => hne ?_
    rw [← (namedBy_line_iff (hnames p hp)).mp h.1, ← (namedBy_line_iff (hnames p' hp')).mp h.2]
  · intro e he k hk
    obtain ⟨p, hp, rfl⟩ := hentry e he
    obtain rfl := (namedBy_line_iff (hnames p hp)).mp hk
    exact says_written _ _
  · intro k hk
    obtain ⟨p, hp, rfl⟩ := List.mem_map.mp (hall k hk)
    refine ⟨(f.line p.1 p.2).entry, ?_, (namedBy_line_iff (hnames p hp)).mpr rfl⟩
    rw [List.map_map]
    exact List.mem_map.mpr ⟨p, hp, rfl⟩
  · intro e he hport text htext
    obtain ⟨p, hp, rfl⟩ := hentry e he
    obtain ⟨k, name⟩ := p
    obtain rfl := (namedBy_line_iff (hnames _ hp)).mp hport
    obtain rfl : String.ofList (FieldKind.port.written (f.get .port)).2 = text :=
      Option.some.inj htext
    rw [String.toList_ofList]
    exact head?_written_port _

/-- **Every layer has a file.** -/
theorem isFile_file (f : Layer) : f.IsFile f.file := by
  have hfst : (FileKey.all.map fun k => (k, k.name)).map Prod.fst = FileKey.all := rfl
  refine isFile_fileOf (List.cons_ne_nil _ _) ?_ ?_ ?_
  · intro p hp
    obtain ⟨k, -, rfl⟩ := List.mem_map.mp hp
    exact List.mem_cons_self
  · rw [hfst]
    decide
  · intro k _
    rw [hfst]
    cases k <;> decide

/-! ### Mappings -/

/-- **Mappings are read whatever their spelling and order.** A file that is a mapping which
holds a layer is read as this layer, if the port is written without a minus sign. If two
entries name one field, the file is refused. And no name belongs to two fields. -/
theorem parse_mapping (hparse : Yaml.parse text = .ok d)
    (hroot : d.root = some (.mapping marks entries)) :
    (∀ f : Layer, f.HeldBy d entries → Unsigned d entries → parse text = .ok f) ∧
    (∀ (e e' : Node × Node) (k : FileKey), [e, e'].Sublist entries → k.NamedBy d e.1 →
      k.NamedBy d e'.1 → ∃ error, parse text = .error (.misread error)) ∧
    ∀ (k k' : FileKey) (name : String), name ∈ k.names → name ∈ k'.names → k = k' :=
  ⟨fun _ => parse_of_heldBy hparse hroot, fun _ _ _ => exists_error_of_twice hparse hroot,
    fun _ _ _ => FileKey.eq_of_mem_names⟩

/-- Short names and names after a colon, a null, and a field under two of its names. -/
theorem parse_mapping_names :
    Layer.parse "port: 3307\n:query: \"SHOW\"\nwarn: null\n" =
        .ok { empty with port := some 3307, query := some "SHOW" } ∧
      ∃ error, Layer.parse "warn: null\n:warn: 5\n" = .error (.misread error) := by
  constructor
  · have hfile : IsFile { empty with port := some 3307, query := some "SHOW" }
        (fileOf { empty with port := some 3307, query := some "SHOW" }
          [(.port, "port"), (.query, ":query"), (.warn, "warn")]) := by
      refine isFile_fileOf (List.cons_ne_nil _ _) (by decide) (by decide) fun k hk => ?_
      cases k <;> first | decide | exact absurd rfl hk
    obtain ⟨d, marks, entries, hparse, hroot, hf, hsign⟩ := hfile
    exact (parse_mapping hparse hroot).1 _ hf hsign
  · have hvalid : ∀ line ∈ [Line.mk "warn".toList false "null".toList,
        ⟨":warn".toList, false, "5".toList⟩], line.Valid := by
      simp only [List.forall_mem_cons, List.not_mem_nil, false_imp_iff, implies_true, and_true]
      exact ⟨⟨by decide, by decide, by decide, fun _ => by decide⟩,
        ⟨by decide, by decide, by decide, fun _ => by decide⟩⟩
    have hparse := Yaml.parse_lines hvalid (List.cons_ne_nil _ _)
    exact (parse_mapping hparse rfl).2.1 _ _ .warn (.refl _) ⟨"warn", by decide, rfl⟩
      ⟨":warn", by decide, rfl⟩

/-- **A port with a minus sign.** A mapping holds zero as the port, which it is written as
with a minus sign, and is refused. -/
theorem not_parse_minus_zero :
    ∃ d marks entries, Yaml.parse "mysql_port: -0\n" = .ok d ∧
      d.root = some (.mapping marks entries) ∧
      HeldBy { empty with port := some 0 } d entries ∧
      parse "mysql_port: -0\n" =
        .error (.misread ⟨some "mysql_port", .wrongType (.scalar (.integer 0)) "u16"⟩) := by
  have hvalid : ∀ line ∈ [Line.mk "mysql_port".toList false "-0".toList], line.Valid := by
    simp only [List.forall_mem_cons, List.not_mem_nil, false_imp_iff, implies_true, and_true]
    exact ⟨by decide, by decide, by decide, fun _ => by decide⟩
  have htext : String.ofList ([Line.mk "mysql_port".toList false "-0".toList].flatMap Line.text) =
      "mysql_port: -0\n" := by
    decide +kernel
  have hparse := Yaml.parse_lines hvalid (List.cons_ne_nil _ _)
  simp only [htext, Line.entry, Line.style, String.ofList_toList, List.map_cons, List.map_nil,
    Bool.false_eq_true, if_false] at hparse
  have hport : FileKey.ofName? "mysql_port" = some .port := by decide
  have hnamed : ∀ (d : Document) (k : FileKey),
      k.NamedBy d (.scalar .none .plain "mysql_port") ↔ k = .port := by
    intro d k
    rw [FileKey.namedBy_iff rfl, hport, Option.some.injEq, eq_comm]
  have hzero : Scalar.ofPlain "-0" = .integer 0 := by decide +kernel
  have hrefused : parse "mysql_port: -0\n" =
      .error (.misread ⟨some "mysql_port", .wrongType (.scalar (.integer 0)) "u16"⟩) := by
    rfl
  refine ⟨_, _, _, hparse, rfl, ⟨?_, ?_, ?_, ?_⟩, hrefused⟩
  · exact List.forall_mem_singleton.mpr ⟨_, rfl⟩
  · exact List.pairwise_singleton _ _
  · refine List.forall_mem_singleton.mpr fun k hk => ?_
    obtain rfl := (hnamed _ k).mp hk
    exact .intro rfl (congrArg Except.ok hzero) (.inl rfl)
  · intro k hk
    obtain rfl : k = .port := by cases k <;> first | rfl | exact absurd rfl hk
    exact ⟨_, List.mem_cons_self, (hnamed _ _).mpr rfl⟩

end Layer

end SqlProbe
