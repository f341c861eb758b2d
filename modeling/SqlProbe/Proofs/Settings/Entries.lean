import SqlProbe.Proofs.Settings.Fields
import SqlProbe.Proofs.Switches.Union
import SqlProbe.Proofs.Yaml.Blank
import SqlProbe.Proofs.Yaml.Meaning

/-!
# The entries of a file of settings

A file of settings is a mapping, and what it says can be told entry by entry. A key names
a field by any of its names (`FileKey.NamedBy`), and no name belongs to two fields
(`FileKey.eq_of_mem_names`). The value of a field says what its kind writes it as
(`FieldKind.said`), and null says that the field is absent. A mapping that names every
field of a layer, none twice, with values that say what the fields are, *holds* the layer
(`Layer.HeldBy`); its other keys can have any values.

The step is `Layer.readContent_gives`, one value of one kind, and the run is
`Layer.readFields_gives`, by induction on the entries: the fields that are named among
them are read, and the others stay as they are. Conversely entries that are read name no
field twice (`Layer.once_of_readFields`). So a mapping that holds a layer is read as it,
wherever its entries stand (`Layer.parse_of_heldBy`), and one that names a field twice is
refused (`Layer.exists_error_of_twice`).
-/

namespace SqlProbe

open Yaml (Node Document Reader Path Scalar Marks)
open Yaml.Reader (Gives)

/-! ### Names of fields -/

namespace FileKey

variable {k k' : FileKey} {name : String} {d : Document} {n : Node}

/-- Every name is that of one field. -/
theorem ofName?_eq_some_iff : ofName? name = some k ↔ name ∈ k.names := by
  constructor
  · intro h
    simpa using List.find?_some h
  · have hnames : ∀ name ∈ k.names, ofName? name = some k := by
      cases k <;> decide
    exact hnames name

/-- **The names of two fields** are different. -/
theorem eq_of_mem_names (h : name ∈ k.names) (h' : name ∈ k'.names) : k = k' :=
  Option.some.inj ((ofName?_eq_some_iff.mpr h).symm.trans (ofName?_eq_some_iff.mpr h'))

/-- A key names a field, by any of its names. -/
def NamedBy (k : FileKey) (d : Document) (n : Node) : Prop :=
  ∃ name ∈ k.names, d.keyText? n = some name

theorem namedBy_iff (hn : d.keyText? n = some name) : k.NamedBy d n ↔ ofName? name = some k := by
  rw [ofName?_eq_some_iff, NamedBy, hn]
  constructor
  · rintro ⟨_, hk, h⟩
    exact Option.some.inj h ▸ hk
  · exact fun hk => ⟨name, hk, rfl⟩

theorem not_namedBy (hn : d.keyText? n = some name) (hname : ofName? name = none) :
    ¬ k.NamedBy d n := fun h => by
  rw [namedBy_iff hn, hname] at h
  cases h

theorem NamedBy.unique (h : k.NamedBy d n) (h' : k'.NamedBy d n) : k = k' := by
  obtain ⟨name, hk, hn⟩ := h
  rw [namedBy_iff hn] at h'
  exact eq_of_mem_names hk (ofName?_eq_some_iff.mp h')

end FileKey

/-! ### Values of fields -/

namespace FieldKind

/-- What a value is written as. -/
def scalar : (κ : FieldKind) → κ.Content → Scalar
  | text, v => .text v
  | port, v => .integer (UInt16.toNat v)
  | truth, v => .bool v
  | format, v => .text (LogFormat.name v)

/-- What a field is written as that may be absent. -/
def said (κ : FieldKind) : Option κ.Content → Scalar
  | some v => κ.scalar v
  | none => .null

end FieldKind

namespace Layer

variable {d : Document} {path : Path} {n : Node} {f l : Layer} {k : FileKey}
  {entries : List (Node × Node)}

/-- Reads the value of a kind. -/
def readContent (d : Document) (path : Path) (n : Node) :
    (κ : FieldKind) → Reader (Option κ.Content)
  | .text => readText d path n
  | .port => readOptional d Yaml.readPort path n
  | .truth => readOptional d Yaml.readBool path n
  | .format => readOptional d readLogFormat path n

/-- A field is read according to its kind, and the others stay as they are. -/
theorem readField_eq (d : Document) (path : Path) (n : Node) (l : Layer) (k : FileKey) :
    readField d path n l k = l.put k <$> readContent d path n k.kind := by
  cases k <;> rfl

theorem readText_gives {v : Option String} (h : (d.target n).Says (FieldKind.text.said v)) :
    Gives d.stepLimit 1 (readText d path n) v := by
  cases v with
  | some t =>
    refine (Yaml.readValue_gives h rfl).bind_free ?_
    exact Gives.pure _
  | none =>
    refine (Yaml.readValue_gives h rfl).bind_free ?_
    exact Gives.pure _

/-- What may be left out is read if it is there. -/
theorem readOptional_gives {α : Type} {s : Scalar} {read : Path → Node → Reader α} {x : α}
    (h : (d.target n).Says s) (hs : s ≠ .null)
    (hread : Gives d.stepLimit 0 (read path (d.target n)) x) :
    Gives d.stepLimit 1 (readOptional d read path n) (some x) := by
  refine (Yaml.readPresent_gives_some h hs).bind_free ?_
  exact hread.map

theorem readOptional_gives_none {α : Type} {read : Path → Node → Reader α}
    (h : (d.target n).Says .null) : Gives d.stepLimit 1 (readOptional d read path n) none := by
  refine (Yaml.readPresent_gives_none h).bind_free ?_
  exact Gives.pure _

theorem readLogFormat_gives {limit : Nat} {format : LogFormat} (h : n.Says (.text format.name)) :
    Gives limit 0 (readLogFormat path n) format := by
  have hword : format.name ∈ [LogFormat.text.name, LogFormat.json.name] := by
    cases format <;> decide
  refine (Yaml.readWord_gives h hword).bind_free ?_
  cases format <;> exact Gives.pure _

/-- No port is written with a minus sign. -/
def Unsigned (d : Document) (entries : List (Node × Node)) : Prop :=
  ∀ e ∈ entries, FileKey.port.NamedBy d e.1 →
    ∀ text, Yaml.writtenKey? (d.target e.2) = some text → text.toList.head? ≠ some '-'

/-- **One value.** What says the value of a field is read as it. -/
theorem readContent_gives {κ : FieldKind} {v : Option κ.Content}
    (h : (d.target n).Says (κ.said v))
    (hsign : κ = .port →
      ∀ text, Yaml.writtenKey? (d.target n) = some text → text.toList.head? ≠ some '-') :
    Gives d.stepLimit 1 (readContent d path n κ) v := by
  cases κ with
  | text => exact readText_gives h
  | port =>
    cases v with
    | none => exact readOptional_gives_none h
    | some p => exact readOptional_gives h (fun h => nomatch h) (Yaml.readPort_gives h (hsign rfl))
  | truth =>
    cases v with
    | none => exact readOptional_gives_none h
    | some b => exact readOptional_gives h (fun h => nomatch h) (Yaml.readBool_gives h)
  | format =>
    cases v with
    | none => exact readOptional_gives_none h
    | some form => exact readOptional_gives h (fun h => nomatch h) (readLogFormat_gives h)

/-! ### The entries of a mapping -/

/-- **A mapping holds a layer** if its keys are scalars that name every field that is set
and no field twice, and the value of every field that is named says what the field is.
Keys that name no field can have any value. -/
structure HeldBy (f : Layer) (d : Document) (entries : List (Node × Node)) : Prop where
  /-- Every key is a scalar. -/
  keys : ∀ e ∈ entries, ∃ name, d.keyText? e.1 = some name
  /-- No field is named twice. -/
  once : entries.Pairwise fun e e' => ∀ k : FileKey, ¬ (k.NamedBy d e.1 ∧ k.NamedBy d e'.1)
  /-- The value of a field says what the field is, or null if it is absent. -/
  values : ∀ e ∈ entries, ∀ k : FileKey, k.NamedBy d e.1 →
    (d.target e.2).Says (k.kind.said (f.get k))
  /-- Every field that is set is named. -/
  named : ∀ k, f.get k ≠ none → ∃ e ∈ entries, k.NamedBy d e.1

section Step

variable {key value : Node} {rest : List (Node × Node)} {seen : List FileKey} {l' : Layer}
  {cost : Nat}

/-- An entry that names no field is passed over. -/
theorem readFields_other_gives {name : String} (hname : d.keyText? key = some name)
    (hk : FileKey.ofName? name = none)
    (hrest : Gives d.stepLimit cost (readFields d seen l rest) l') :
    Gives d.stepLimit (cost + 2) (readFields d seen l ((key, value) :: rest)) l' := by
  have hentry : Gives d.stepLimit (1 + cost) (readFields d seen l ((key, value) :: rest)) l' := by
    refine (Yaml.readFieldName_gives hname).bind ?_
    simp only [hk]
    exact hrest
  exact hentry.mono (by omega)

/-- An entry that names a field for the first time is read into it. It takes two steps
along aliases at most, one for its key and one for its value. -/
theorem readFields_own_gives {own : FileKey} {name : String} (hname : d.keyText? key = some name)
    (hk : FileKey.ofName? name = some own) (hfresh : own ∉ seen)
    (hvalue : (d.target value).Says (own.kind.said (f.get own)))
    (hsign : own = .port →
      ∀ text, Yaml.writtenKey? (d.target value) = some text → text.toList.head? ≠ some '-')
    (hrest : Gives d.stepLimit cost
      (readFields d (own :: seen) (l.put own (f.get own)) rest) l') :
    Gives d.stepLimit (cost + 2) (readFields d seen l ((key, value) :: rest)) l' := by
  have hseen : seen.contains own = false := by simpa using hfresh
  have hput : Gives d.stepLimit 1
      (readField d (Path.entry none (Yaml.writtenKey? key)) value l own)
      (l.put own (f.get own)) := by
    rw [readField_eq]
    refine (readContent_gives hvalue fun hport => hsign ?_).map
    cases own <;> first | rfl | cases hport
  have hentry : Gives d.stepLimit (1 + (1 + cost))
      (readFields d seen l ((key, value) :: rest)) l' := by
    refine (Yaml.readFieldName_gives hname).bind ?_
    simp only [hk, hseen, Bool.false_eq_true, if_false]
    exact hput.bind hrest
  exact hentry.mono (by omega)

end Step

/-- **Entries.** The fields they name are read from them, and the others stay as they
are. -/
theorem readFields_gives {seen : List FileKey}
    (hkeys : ∀ e ∈ entries, ∃ name, d.keyText? e.1 = some name)
    (honce : entries.Pairwise fun e e' => ∀ k : FileKey, ¬ (k.NamedBy d e.1 ∧ k.NamedBy d e'.1))
    (hvalues : ∀ e ∈ entries, ∀ k : FileKey, k.NamedBy d e.1 →
      (d.target e.2).Says (k.kind.said (f.get k)))
    (hsign : Unsigned d entries)
    (hseen : ∀ e ∈ entries, ∀ k : FileKey, k.NamedBy d e.1 → k ∉ seen) :
    ∃ l', Gives d.stepLimit (2 * entries.length) (readFields d seen l entries) l' ∧
      (∀ k : FileKey, (∃ e ∈ entries, k.NamedBy d e.1) → l'.get k = f.get k) ∧
      (∀ k : FileKey, (∀ e ∈ entries, ¬ k.NamedBy d e.1) → l'.get k = l.get k) := by
  -- By induction on the entries, with the fields that have been seen and the layer read so
  -- far left general, since both change at every entry that names a field.
  induction entries generalizing seen l with
  | nil => exact ⟨l, Gives.pure l, by simp, fun _ _ => rfl⟩
  | cons e rest ih =>
    obtain ⟨key, value⟩ := e
    obtain ⟨⟨name, hname⟩, hkeys⟩ := List.forall_mem_cons.mp hkeys
    obtain ⟨hfirst, honce⟩ := List.pairwise_cons.mp honce
    obtain ⟨hvalue, hvalues⟩ := List.forall_mem_cons.mp hvalues
    obtain ⟨hsign₁, hsign⟩ := List.forall_mem_cons.mp hsign
    obtain ⟨hfresh, hseen⟩ := List.forall_mem_cons.mp hseen
    cases hk : FileKey.ofName? name with
    | none =>
      have hother : ∀ k : FileKey, ¬ k.NamedBy d key := fun k => FileKey.not_namedBy hname hk
      obtain ⟨l', hrest, hnamed, hkept⟩ := ih (l := l) hkeys honce hvalues hsign hseen
      refine ⟨l', readFields_other_gives hname hk hrest, fun k => ?_,
        fun k h => hkept k (List.forall_mem_cons.mp h).2⟩
      rw [List.exists_mem_cons_iff]
      rintro (h | h)
      · exact absurd h (hother k)
      · exact hnamed k h
    | some own =>
      have hown : own.NamedBy d key := (FileKey.namedBy_iff hname).mpr hk
      have hseen' : ∀ e ∈ rest, ∀ k : FileKey, k.NamedBy d e.1 → k ∉ own :: seen := by
        intro e he k hke hmem
        obtain rfl | hmem := List.mem_cons.mp hmem
        · exact hfirst e he k ⟨hown, hke⟩
        · exact hseen e he k hke hmem
      obtain ⟨l', hrest, hnamed, hkept⟩ :=
        ih (l := l.put own (f.get own)) hkeys honce hvalues hsign hseen'
      have hgives := readFields_own_gives hname hk (hfresh own hown) (hvalue own hown)
        (fun hport => hsign₁ (hport ▸ hown)) hrest
      refine ⟨l', hgives, fun k => ?_, fun k h => ?_⟩
      · rw [List.exists_mem_cons_iff]
        rintro (h | h)
        · -- What is read first stays, since it is not named again.
          obtain rfl := hown.unique h
          rw [hkept own fun e he hke => hfirst e he own ⟨h, hke⟩, get_put_self]
        · exact hnamed k h
      · obtain ⟨hne, h⟩ := List.forall_mem_cons.mp h
        have hother : k ≠ own := by
          rintro rfl
          exact hne hown
        rw [hkept k h, get_put_of_ne hother]

theorem keyText?_of_readFieldName {steps steps' : Nat} {name : String}
    (h : Yaml.readFieldName d path n steps = .ok (name, steps')) : d.keyText? n = some name := by
  obtain ⟨⟨m, steps₁⟩, hresolve, h⟩ := bind_eq_ok_iff.mp h
  -- A step along an alias that is too far is an error, and any other leads to its target.
  have hm : m = d.target n := by
    cases n with
    | aliasOf a =>
      rw [Yaml.resolve] at hresolve
      split at hresolve
      · cases hresolve
      · cases hresolve
        rfl
    | scalar _ _ _ | sequence _ _ | mapping _ _ => cases hresolve; rfl
  rw [Document.keyText?, ← hm]
  cases m with
  | scalar marks style text => cases h; rfl
  | sequence _ _ | mapping _ _ | aliasOf _ => cases h

/-- **Entries that are read** name no field twice, and none that has been seen. -/
theorem once_of_readFields {seen : List FileKey} {steps : Nat} {r : Layer × Nat}
    (h : readFields d seen l entries steps = .ok r) :
    (∀ e ∈ entries, ∀ k : FileKey, k.NamedBy d e.1 → k ∉ seen) ∧
      entries.Pairwise fun e e' => ∀ k : FileKey, ¬ (k.NamedBy d e.1 ∧ k.NamedBy d e'.1) := by
  -- A field that is named has been seen by all entries behind it, and none of them names a
  -- field that has been seen.
  induction entries generalizing seen l steps with
  | nil => exact ⟨by simp, .nil⟩
  | cons e rest ih =>
    obtain ⟨key, value⟩ := e
    obtain ⟨⟨name, steps₁⟩, hread, h⟩ := bind_eq_ok_iff.mp h
    have hname := keyText?_of_readFieldName hread
    cases hk : FileKey.ofName? name with
    | none =>
      have hother : ∀ k : FileKey, ¬ k.NamedBy d key := fun k => FileKey.not_namedBy hname hk
      simp only [hk] at h
      obtain ⟨hseen, honce⟩ := ih h
      refine ⟨List.forall_mem_cons.mpr ⟨fun k h => absurd h (hother k), hseen⟩, ?_⟩
      exact List.pairwise_cons.mpr ⟨fun e _ k h => hother k h.1, honce⟩
    | some own =>
      have hown : own.NamedBy d key := (FileKey.namedBy_iff hname).mpr hk
      simp only [hk] at h
      split at h
      · cases h
      · next hfresh =>
        obtain ⟨⟨l', steps₂⟩, -, h⟩ := bind_eq_ok_iff.mp h
        obtain ⟨hseen, honce⟩ := ih h
        refine ⟨List.forall_mem_cons.mpr ⟨fun k hk => ?_, fun e he k hke hmem => ?_⟩, ?_⟩
        · obtain rfl := hown.unique hk
          simpa using hfresh
        · exact hseen e he k hke (List.mem_cons_of_mem _ hmem)
        · refine List.pairwise_cons.mpr ⟨fun e he k h => ?_, honce⟩
          obtain rfl := hown.unique h.1
          exact hseen e he own h.2 List.mem_cons_self

/-! ### Files -/

/-- There are as many steps along aliases to take as a file can ask for. -/
theorem two_mul_length_le_stepLimit {marks : Marks}
    (hroot : d.root = some (.mapping marks entries)) : 2 * entries.length ≤ d.stepLimit := by
  have hnode : ∀ n : Node, 1 ≤ n.size := fun n => by
    cases n <;> simp only [Node.size] <;> omega
  have hentries : ∀ entries : List (Node × Node),
      2 * entries.length ≤ Node.sizeOfEntries entries := by
    intro entries
    induction entries with
    | nil => exact Nat.le_refl 0
    | cons e rest ih =>
      obtain ⟨key, value⟩ := e
      have hkey := hnode key
      have hvalue := hnode value
      simp only [List.length_cons, Node.sizeOfEntries]
      omega
  have hsize : d.size = 2 + Node.sizeOfEntries entries := by
    rw [Document.size, hroot]
    rfl
  have := hentries entries
  rw [Document.stepLimit, Yaml.aliasFactor, hsize]
  omega

variable {text : String} {marks : Marks}

/-- A file that is a mapping is read entry by entry. -/
theorem parse_of_root (hparse : Yaml.parse text = .ok d)
    (hroot : d.root = some (.mapping marks entries)) :
    parse text =
      match readFields d [] empty entries 0 with
      | .ok r => .ok r.1
      | .error e => .error (.misread e) := by
  have hblank : ¬ Text.allBlank text = true :=
    fun h => Yaml.root_ne_mapping_of_allBlank h hparse marks entries hroot
  rw [parse, if_neg hblank]
  have hrun : (readFields d [] empty entries).run 0 = readFields d [] empty entries 0 := rfl
  simp only [hparse, ofDocument, hroot, readRoot, hrun]
  cases readFields d [] empty entries 0 <;> rfl

/-- A mapping that holds a layer is read as it. -/
theorem parse_of_heldBy (hparse : Yaml.parse text = .ok d)
    (hroot : d.root = some (.mapping marks entries)) (hf : f.HeldBy d entries)
    (hsign : Unsigned d entries) : parse text = .ok f := by
  have hfresh : ∀ e ∈ entries, ∀ k : FileKey, k.NamedBy d e.1 → k ∉ ([] : List FileKey) :=
    fun _ _ _ _ => List.not_mem_nil
  obtain ⟨l, hread, hnamed, hkept⟩ :=
    readFields_gives (l := empty) hf.keys hf.once hf.values hsign hfresh
  obtain ⟨steps, -, hread⟩ := hread 0 (by simpa using two_mul_length_le_stepLimit hroot)
  have hl : l = f := ext_get fun k => by
    by_cases hk : ∃ e ∈ entries, k.NamedBy d e.1
    · exact hnamed k hk
    · -- What is not named is not set.
      have hunset : f.get k = none := by
        by_contra hset
        exact hk (hf.named k hset)
      rw [hkept k fun e he h => hk ⟨e, he, h⟩, get_empty, hunset]
  rw [parse_of_root hparse hroot, hread, hl]

/-- A mapping that names a field twice is refused. -/
theorem exists_error_of_twice (hparse : Yaml.parse text = .ok d)
    (hroot : d.root = some (.mapping marks entries)) {e e' : Node × Node}
    (hsub : [e, e'].Sublist entries) (he : k.NamedBy d e.1) (he' : k.NamedBy d e'.1) :
    ∃ error, parse text = .error (.misread error) := by
  rw [parse_of_root hparse hroot]
  cases hread : readFields d [] empty entries 0 with
  | error error => exact ⟨error, rfl⟩
  | ok r =>
    obtain ⟨-, honce⟩ := once_of_readFields hread
    exact absurd ⟨he, he'⟩ (List.rel_of_pairwise_cons (honce.sublist hsub) List.mem_cons_self k)

/-- **A text is a file of a layer** if it is a mapping that holds it, with the port
written without a minus sign. -/
def IsFile (f : Layer) (text : String) : Prop :=
  ∃ d marks entries, Yaml.parse text = .ok d ∧ d.root = some (.mapping marks entries) ∧
    f.HeldBy d entries ∧ Unsigned d entries

theorem IsFile.parse (h : f.IsFile text) : parse text = .ok f := by
  obtain ⟨d, marks, entries, hparse, hroot, hf, hsign⟩ := h
  exact parse_of_heldBy hparse hroot hf hsign

end Layer

end SqlProbe
