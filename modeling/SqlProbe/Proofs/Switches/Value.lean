import SqlProbe.Proofs.Numeral.Reader
import SqlProbe.Proofs.Switches.Union

/-!
# What the value of a switch sets

Every switch that takes a value has a type of values of its own: a text, the name of a
file, a port number, or the form of log records. `Switch.Sets` tells for each of them
which values it admits and what they set, which is one part of the arguments and nothing
else, and `Arguments.setValue_eq_ok_iff` says that this is what a value does.

The type with something to it is that of ports. A port number is an integer in decimal
digits with or without a sign (`Port.Integer`), where zeros in front do not count, and
it is read digit by digit within the bounds of 64 bits. That no integer between the
bounds of a port is lost on the way is because a number never shrinks when a digit is
added to it (`Port.le_pushAll`): if the last number is within the bounds, all of them
are. So reading accepts the integers from 0 to 65535, and every one of them as itself
(`Port.parse_eq_ok_iff`).
-/

namespace SqlProbe

/-! ### Port numbers -/

namespace Port

open Numeral (SignText PlainRun splitSign)

variable {negative : Bool} {n m : Nat} {c : Char} {s ds : List Char}

/-- **Integers.** A sign or none, and then one or more digits. -/
inductive Integer : List Char → Int → Prop where
  | intro {sign ds : List Char} {negative : Bool} (hsign : SignText sign negative)
      (hrun : PlainRun Digit.isDecimal ds ds) :
      Integer (sign ++ ds) (if negative then -(Digit.natOf 10 ds : Int) else Digit.natOf 10 ds)

/-- The largest size of an integer of 64 bits with the given sign. -/
def largest (negative : Bool) : Nat := if negative then 2 ^ 63 else 2 ^ 63 - 1

/-- The number after some more digits. -/
def pushAll (n : Nat) (ds : List Char) : Nat := ds.foldl (fun n c => n * 10 + Digit.value c) n

theorem pushDigit_eq_ok_iff : pushDigit negative n c = .ok m ↔
    Digit.isDecimal c = true ∧ m = n * 10 + Digit.value c ∧ m ≤ largest negative := by
  rw [pushDigit]
  cases hc : Digit.isDecimal c with
  | false => simp
  | true =>
    cases negative with
    | false =>
      by_cases h : n * 10 + Digit.value c < 0x8000000000000000 <;>
        simp only [h, largest, if_true, if_false] <;> grind
    | true =>
      by_cases h : n * 10 + Digit.value c ≤ 0x8000000000000000 <;>
        simp only [h, largest, if_true, if_false] <;> grind

/-- A number does not shrink when digits are added to it. -/
theorem le_pushAll (n : Nat) (ds : List Char) : n ≤ pushAll n ds := by
  induction ds generalizing n with
  | nil => exact Nat.le_refl n
  | cons c ds ih => exact (by omega : n ≤ n * 10 + Digit.value c).trans (ih _)

/-- Digits are read if the number they make is within the bounds. -/
theorem foldlM_pushDigit_eq_ok_iff (hn : n ≤ largest negative) :
    ds.foldlM (pushDigit negative) n = .ok m ↔
      (∀ c ∈ ds, Digit.isDecimal c = true) ∧ m = pushAll n ds ∧ m ≤ largest negative := by
  induction ds generalizing n with
  | nil =>
    change Except.ok n = Except.ok m ↔ _
    rw [Except.ok.injEq]
    exact ⟨fun h => h ▸ ⟨fun _ hc => (nomatch hc), rfl, hn⟩, fun h => h.2.1.symm⟩
  | cons c ds ih =>
    have hbind : (c :: ds).foldlM (pushDigit negative) n =
        (pushDigit negative n c).bind (ds.foldlM (pushDigit negative)) := rfl
    rw [hbind, bind_eq_ok_iff, List.forall_mem_cons]
    simp only [pushDigit_eq_ok_iff]
    constructor
    · rintro ⟨k, ⟨hc, rfl, hk⟩, h⟩
      obtain ⟨hds, hm, hle⟩ := (ih hk).mp h
      exact ⟨⟨hc, hds⟩, hm, hle⟩
    · rintro ⟨⟨hc, hds⟩, hm, hle⟩
      -- The number so far is at most the number at the end.
      have hk : n * 10 + Digit.value c ≤ largest negative :=
        ((le_pushAll _ ds).trans_eq hm.symm).trans hle
      exact ⟨_, ⟨hc, rfl, hk⟩, (ih hk).mpr ⟨hds, hm, hle⟩⟩

/-- The digits are read after their sign. -/
theorem parseInt_eq (s : List Char) : parseInt s =
    if s.isEmpty then .error .empty
    else if (splitSign s).2.isEmpty then .error .invalidDigit
    else ((splitSign s).2.foldlM (pushDigit (splitSign s).1) 0).map fun (n : Nat) =>
      if (splitSign s).1 then -(n : Int) else (n : Int) := rfl

theorem parseInt_append {sign : List Char} (hsign : SignText sign negative)
    (hrun : PlainRun Digit.isDecimal ds ds) :
    parseInt (sign ++ ds) = (ds.foldlM (pushDigit negative) 0).map fun (n : Nat) =>
      if negative then -(n : Int) else (n : Int) := by
  have hne : (sign ++ ds).isEmpty = false := by simp [hrun.ne_nil]
  have hds : ds.isEmpty = false := by simp [hrun.ne_nil]
  rw [parseInt_eq, hsign.split hrun.noSign]
  simp only [hne, hds, Bool.false_eq_true, if_false]

theorem integer_of_parseInt {k : Int} (h : parseInt s = .ok k) : Integer s k := by
  obtain ⟨sign, hs, hsign⟩ := Numeral.exists_signText s
  rw [parseInt_eq] at h
  split at h
  · cases h
  · split at h
    · cases h
    · next hempty =>
      obtain ⟨n, hfold, rfl⟩ := map_eq_ok_iff.mp h
      obtain ⟨hall, rfl, -⟩ := (foldlM_pushDigit_eq_ok_iff (Nat.zero_le _)).mp hfold
      rw [List.isEmpty_iff] at hempty
      rw [hs]
      exact hs ▸ Integer.intro hsign ⟨rfl, hempty, hall⟩

/-- **Port numbers** are the integers from 0 to 65535, in any spelling. -/
theorem parse_eq_ok_iff {v : String} {p : UInt16} :
    parse v = .ok p ↔ Integer v.toList p.toNat := by
  have hp : p.toNat < 65536 := p.toNat_lt
  constructor
  · intro h
    rw [parse] at h
    split at h
    · cases h
    · next k hk =>
      split at h
      · next hrange =>
        cases h
        have hnat : (UInt16.ofNat k.toNat).toNat = k.toNat := by
          rw [UInt16.toNat_ofNat']
          omega
        rw [hnat, Int.toNat_of_nonneg hrange.1]
        exact integer_of_parseInt hk
      · cases h
  · intro h
    have hparse : parseInt v.toList = .ok (p.toNat : Int) := by
      generalize hk : (p.toNat : Int) = k at h
      generalize v.toList = s at h ⊢
      obtain ⟨hsign, hrun⟩ := h
      next sign ds negative =>
      have hle : Digit.natOf 10 ds ≤ largest negative := by
        cases negative <;> simp only [largest, if_true, Bool.false_eq_true, if_false] at hk ⊢ <;>
          omega
      rw [parseInt_append hsign hrun, map_eq_ok_iff]
      exact ⟨_, (foldlM_pushDigit_eq_ok_iff (Nat.zero_le _)).mpr ⟨hrun.all, rfl, hle⟩, rfl⟩
    rw [parse, hparse]
    simp only
    rw [if_pos (by omega), Int.toNat_natCast, UInt16.ofNat_toNat]

end Port

/-! ### One value -/

/-- **What a value sets.** The switch admits the value, and with it sets the arguments,
of which everything else is left out. -/
inductive Switch.Sets : Switch → RawText → Arguments → Prop where
  | query {value : RawText} {v : String} (h : value.toString? = some v) :
      Sets .query value { Arguments.none with query := some v }
  | result {value : RawText} {v : String} (h : value.toString? = some v) :
      Sets .result value { Arguments.none with result := some v }
  | regex {value : RawText} {v : String} (h : value.toString? = some v) :
      Sets .regex value { Arguments.none with regex := some v }
  | warn {value : RawText} {v : String} (h : value.toString? = some v) :
      Sets .warn value { Arguments.none with warn := some v }
  | crit {value : RawText} {v : String} (h : value.toString? = some v) :
      Sets .crit value { Arguments.none with crit := some v }
  | host {value : RawText} {v : String} (h : value.toString? = some v) :
      Sets .host value { Arguments.none with host := some v }
  | database {value : RawText} {v : String} (h : value.toString? = some v) :
      Sets .database value { Arguments.none with database := some v }
  | user {value : RawText} {v : String} (h : value.toString? = some v) :
      Sets .user value { Arguments.none with user := some v }
  | pass {value : RawText} {v : String} (h : value.toString? = some v) :
      Sets .pass value { Arguments.none with pass := some v }
  /-- The name of a file need not be UTF-8, and is not empty. -/
  | file {value : RawText} (h : value.isEmpty = false) :
      Sets .file value { Arguments.none with file := some value }
  /-- A port is an integer from 0 to 65535. -/
  | port {value : RawText} {v : String} {p : UInt16} (h : value.toString? = some v)
      (hp : Port.Integer v.toList p.toNat) :
      Sets .port value { Arguments.none with port := some p }
  /-- The form of log records is called by one of its names. -/
  | logFormat {value : RawText} {v : String} {f : LogFormat} (h : value.toString? = some v)
      (hf : LogFormat.parse v = .ok f) :
      Sets .logFormat value { Arguments.none with logFormat := some f }

namespace Arguments

variable {a : Arguments} {s : Switch} {value : RawText}

theorem textOf_eq_ok_iff {v : String} : textOf value = .ok v ↔ value.toString? = some v := by
  rw [textOf]
  cases value.toString? <;> simp

/-- Both directions of `setValue_eq_ok_iff` for the switches that take a text. -/
theorem map_textOf_eq_ok_iff {g : String → Arguments} :
    (textOf value).map g = .ok a ↔ ∃ v, value.toString? = some v ∧ a = g v := by
  simp only [map_eq_ok_iff, textOf_eq_ok_iff]

/-- **One value** sets what its switch admits it for. -/
theorem setValue_eq_ok_iff (hs : s.takesValue = true) :
    none.setValue s value = .ok a ↔ s.Sets value a := by
  cases s
  case query | result | regex | warn | crit | host | database | user | pass =>
    rw [setValue, map_textOf_eq_ok_iff]
    constructor
    · rintro ⟨v, hv, rfl⟩
      constructor
      exact hv
    · intro h
      cases h
      next hv => exact ⟨_, hv, rfl⟩
  case file =>
    rw [setValue]
    cases hv : value.isEmpty with
    | true =>
      constructor
      · intro h
        cases h
      · intro h
        cases h
        next h => cases hv.symm.trans h
    | false =>
      constructor
      · intro h
        cases h
        exact .file hv
      · intro h
        cases h
        rfl
  case port =>
    rw [setValue]
    constructor
    · intro h
      split at h
      · cases h
      · next v hv =>
        split at h
        · next p hp =>
          cases h
          exact .port (textOf_eq_ok_iff.mp hv) (Port.parse_eq_ok_iff.mp hp)
        · cases h
    · intro h
      cases h
      next hp hv =>
        rw [textOf_eq_ok_iff.mpr hv]
        simp only [Port.parse_eq_ok_iff.mpr hp]
  case logFormat =>
    rw [setValue]
    constructor
    · intro h
      split at h
      · cases h
      · next v hv =>
        split at h
        · next f hf =>
          cases h
          exact .logFormat (textOf_eq_ok_iff.mp hv) hf
        · cases h
    · intro h
      cases h
      next hf hv =>
        rw [textOf_eq_ok_iff.mpr hv]
        simp only [hf]
  case verbose | help => cases hs

end Arguments

end SqlProbe
