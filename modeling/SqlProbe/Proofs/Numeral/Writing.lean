import Mathlib.Data.List.Induction
import SqlProbe.Proofs.Numeral.Grammar

/-!
# The digits of a number

A number written in the digits of a base up to sixteen, or in a given count of hexadecimal
ones, is what its digits denote. No zero is written in front in decimal, so that only the
number zero starts with one.

* `Digit.natOf_toDigits`, `Digit.natOf_hexOf`: the number is read back.
* `Digit.isDecimal_of_mem_toDigits`, `Digit.isHex_of_mem_toDigits`,
  `Digit.isHex_of_mem_hexOf`: digits and nothing else.
* `Digit.head?_toDigits_ne_zero`: no zero in front.
* `Digit.toDigits_natOf`: digits without such a zero are those of their number.
-/

namespace SqlProbe

namespace Digit

/-! ### Hexadecimal digits -/

/-- The last hexadecimal digits of a number, as many as given. -/
def hexOf : Nat → Nat → List Char
  | 0, _ => []
  | count + 1, n => hexOf count (n / 16) ++ [Nat.digitChar (n % 16)]

theorem digitChar_facts {n : Nat} (hn : n < 16) :
    isHex (Nat.digitChar n) = true ∧ value (Nat.digitChar n) = n ∧
      0x20 < (Nat.digitChar n).toNat ∧ (Nat.digitChar n).toNat < 0x7F := by
  have hall : ∀ n ∈ List.range 16, isHex (Nat.digitChar n) = true ∧
      value (Nat.digitChar n) = n ∧ 0x20 < (Nat.digitChar n).toNat ∧
      (Nat.digitChar n).toNat < 0x7F := by decide
  exact hall n (List.mem_range.mpr hn)

@[simp] theorem length_hexOf (count n : Nat) : (hexOf count n).length = count := by
  induction count generalizing n with
  | zero => rfl
  | succ count ih => simp [hexOf, ih]

theorem isHex_of_mem_hexOf {count n : Nat} {c : Char} (hc : c ∈ hexOf count n) :
    isHex c = true ∧ 0x20 < c.toNat ∧ c.toNat < 0x7F := by
  induction count generalizing n with
  | zero => cases hc
  | succ count ih =>
    rw [hexOf, List.mem_append, List.mem_singleton] at hc
    obtain hc | rfl := hc
    · exact ih hc
    · obtain ⟨hhex, -, hprint⟩ := digitChar_facts (Nat.mod_lt n (by decide : 0 < 16))
      exact ⟨hhex, hprint⟩

/-- A number is what its digits denote, if there are enough of them. -/
theorem natOf_hexOf {count n : Nat} (hn : n < 16 ^ count) : natOf 16 (hexOf count n) = n := by
  induction count generalizing n with
  | zero => exact (Nat.lt_one_iff.mp hn).symm
  | succ count ih =>
    have hdiv : n / 16 < 16 ^ count := Nat.div_lt_of_lt_mul (by rwa [Nat.pow_succ'] at hn)
    have hdigit := (digitChar_facts (Nat.mod_lt n (by decide : 0 < 16))).2.1
    rw [hexOf, natOf_append_singleton, ih hdiv, hdigit]
    omega

/-! ### Digits in a base -/

section Base

variable {base n : Nat} {c : Char}

theorem exists_digitChar_of_mem_toDigits (hbase : 1 < base) (hc : c ∈ Nat.toDigits base n) :
    ∃ d < base, c = Nat.digitChar d := by
  induction n using Nat.strongRecOn with
  | ind n ih =>
    by_cases hn : n < base
    · rw [Nat.toDigits_of_lt_base hn, List.mem_singleton] at hc
      exact ⟨n, hn, hc⟩
    · rw [Nat.toDigits_of_base_le hbase (Nat.le_of_not_lt hn), List.mem_append,
        List.mem_singleton] at hc
      obtain hc | rfl := hc
      · exact ih (n / base) (Nat.div_lt_self (by omega) hbase) hc
      · exact ⟨n % base, Nat.mod_lt n (by omega), rfl⟩

/-- In a base up to sixteen all digits are hexadecimal ones. -/
theorem isHex_of_mem_toDigits (hbase : 1 < base) (hhex : base ≤ 16)
    (hc : c ∈ Nat.toDigits base n) : isHex c = true := by
  obtain ⟨d, hd, rfl⟩ := exists_digitChar_of_mem_toDigits hbase hc
  exact (digitChar_facts (Nat.lt_of_lt_of_le hd hhex)).1

/-- **A number is what its digits denote**, in a base up to sixteen. -/
theorem natOf_toDigits (hbase : 1 < base) (hhex : base ≤ 16) (n : Nat) :
    natOf base (Nat.toDigits base n) = n := by
  induction n using Nat.strongRecOn with
  | ind n ih =>
    by_cases hn : n < base
    · rw [Nat.toDigits_of_lt_base hn]
      have hdigit := (digitChar_facts (Nat.lt_of_lt_of_le hn hhex)).2.1
      change 0 * base + value (Nat.digitChar n) = n
      omega
    · have hlt : n % base < base := Nat.mod_lt n (by omega)
      have hdigit := (digitChar_facts (Nat.lt_of_lt_of_le hlt hhex)).2.1
      rw [Nat.toDigits_of_base_le hbase (Nat.le_of_not_lt hn), natOf_append_singleton,
        ih (n / base) (Nat.div_lt_self (by omega) hbase), hdigit]
      exact Nat.div_add_mod' n base

end Base

/-! ### Decimal digits -/

theorem isDecimal_digitChar {n : Nat} (hn : n < 10) : isDecimal (Nat.digitChar n) = true := by
  have hall : ∀ n ∈ List.range 10, isDecimal (Nat.digitChar n) = true := by decide
  exact hall n (List.mem_range.mpr hn)

/-- A number of more digits than one is that without its last digit, and the last digit. -/
theorem toDigits_eq_append {n : Nat} (hn : 10 ≤ n) :
    Nat.toDigits 10 n = Nat.toDigits 10 (n / 10) ++ [Nat.digitChar (n % 10)] :=
  Nat.toDigits_of_base_le (by decide) hn

theorem isDecimal_of_mem_toDigits {n : Nat} {c : Char} (hc : c ∈ Nat.toDigits 10 n) :
    isDecimal c = true := by
  obtain ⟨d, hd, rfl⟩ := exists_digitChar_of_mem_toDigits (by decide) hc
  exact isDecimal_digitChar hd

/-- The digits are a run of them. -/
theorem plainRun_toDigits (n : Nat) :
    Numeral.PlainRun isDecimal (Nat.toDigits 10 n) (Nat.toDigits 10 n) :=
  ⟨rfl, Nat.toDigits_ne_nil, fun _ => isDecimal_of_mem_toDigits⟩

/-- No zero is written in front of a number. -/
theorem head?_toDigits_ne_zero {n : Nat} (hn : 0 < n) : (Nat.toDigits 10 n).head? ≠ some '0' := by
  induction n using Nat.strongRecOn with
  | ind n ih =>
    by_cases hlt : n < 10
    · have hall : ∀ n ∈ List.range 10, 0 < n → Nat.digitChar n ≠ '0' := by decide
      rw [Nat.toDigits_of_lt_base hlt]
      exact fun h => hall n (List.mem_range.mpr hlt) hn (Option.some.inj h)
    · have hne : Nat.toDigits 10 (n / 10) ≠ [] := Nat.toDigits_ne_nil
      obtain ⟨c, ds, hds⟩ := List.exists_cons_of_ne_nil hne
      have hhead := ih (n / 10) (by omega) (by omega)
      rw [hds] at hhead
      rw [toDigits_eq_append (by omega), hds]
      exact hhead

/-- Two decimal digits that count the same are at the same place after zero. -/
theorem eq_of_value_eq {c d : Char} (hc : isDecimal c = true) (hd : isDecimal d = true)
    (h : value c = value d) : c = d := by
  rw [value, if_pos hc, value, if_pos hd] at h
  simp only [isDecimal, Bool.and_eq_true, decide_eq_true_eq, le_iff_toNat_le] at hc hd
  exact Char.toNat_inj.mp (by omega)

theorem digitChar_value {c : Char} (hc : isDecimal c = true) : Nat.digitChar (value c) = c := by
  have hlt := value_lt_ten hc
  exact eq_of_value_eq (isDecimal_digitChar hlt) hc (digitChar_facts (by omega)).2.1

/-- **Digits are those of their number**, if no zero in front of them counts for nothing. -/
theorem toDigits_natOf {ds : List Char} (hrun : Numeral.PlainRun isDecimal ds ds)
    (hzero : ds.head? = some '0' → ds = ['0']) : Nat.toDigits 10 (natOf 10 ds) = ds := by
  obtain ⟨-, hne, hall⟩ := hrun
  -- By induction from the last digit on, since this is the one that `toDigits` splits off.
  induction ds using List.reverseRecOn with
  | nil => exact absurd rfl hne
  | append_singleton ds c ih =>
    obtain ⟨hds, hc⟩ := List.forall_mem_append.mp hall
    have hc := hc c (List.mem_singleton_self c)
    have hlt := value_lt_ten hc
    rw [natOf_append_singleton]
    by_cases hnil : ds = []
    · subst hnil
      show Nat.toDigits 10 (0 * 10 + value c) = [c]
      rw [Nat.zero_mul, Nat.zero_add, Nat.toDigits_of_lt_base hlt, digitChar_value hc]
    · have hhead : ds.head? ≠ some '0' := by
        intro h
        have hlist := hzero (by rw [List.head?_append, h, Option.some_or])
        have hlength := congrArg List.length hlist
        rw [List.length_append, List.length_singleton, List.length_singleton] at hlength
        exact hnil (List.length_eq_zero_iff.mp (by omega))
      have hdigits := ih (fun h => absurd h hhead) hnil hds
      have hpos : 0 < natOf 10 ds := by
        refine Nat.pos_of_ne_zero fun h => hhead ?_
        rw [h] at hdigits
        rw [← hdigits]
        rfl
      have hdiv : (natOf 10 ds * 10 + value c) / 10 = natOf 10 ds := by omega
      have hmod : (natOf 10 ds * 10 + value c) % 10 = value c := by omega
      rw [toDigits_eq_append (by omega), hdiv, hmod, hdigits, digitChar_value hc]

end Digit

end SqlProbe
