import Mathlib.Tactic.Ring
import Mathlib.Tactic.Positivity
import Mathlib.Order.Monotone.Basic
import SqlProbe.Number.Shortest

/-!
# The sizes of binary64 numbers

The sizes that a binary64 number can have form a ladder, and the rank is the
rung. From one rung to the next the size grows by a power of two, which doubles
whenever the exponent field does (`Binary64.unitsOf_succ`). So the ladder is
strictly increasing (`Binary64.unitsOf_strictMono`), and ranks can be compared in
place of sizes.

A rank can also be written as `shift * exponentWeight + m` for a significand `m`,
and its size is then `m * 2 ^ shift` units (`Binary64.unitsOf_shift`). The
equation allows `m` to be twice the weight, and this is what lets a significand
that rounds up out of its binade carry into the exponent field.

The second half is about patterns: a pattern is its sign and its rank, and any
sign goes with any rank that is no larger than that of infinity.
-/

namespace SqlProbe

namespace Binary64

/-! ### The ladder -/

theorem weight_pos : 0 < exponentWeight := by decide

/-- From one rank to the next the size grows by a power of two. -/
theorem unitsOf_succ (rank : Nat) :
    unitsOf (rank + 1) = unitsOf rank + 2 ^ (rank / exponentWeight - 1) := by
  simp only [unitsOf, decode, Nat.pow_eq]
  by_cases hcarry : rank % exponentWeight + 1 < exponentWeight
  · -- The fraction counts on within one binade.
    have hdiv : (rank + 1) / exponentWeight = rank / exponentWeight := by
      simp only [exponentWeight] at hcarry ⊢
      omega
    have hmod : (rank + 1) % exponentWeight = rank % exponentWeight + 1 := by
      simp only [exponentWeight] at hcarry ⊢
      omega
    rw [hdiv, hmod]
    split
    · next h => simp [h]
    · simp only
      ring
  · -- The fraction is full, and the exponent counts on.
    have hfull : rank % exponentWeight + 1 = exponentWeight :=
      Nat.le_antisymm (Nat.mod_lt _ weight_pos) (Nat.not_lt.mp hcarry)
    have hdiv : (rank + 1) / exponentWeight = rank / exponentWeight + 1 := by
      simp only [exponentWeight] at hfull ⊢
      omega
    have hmod : (rank + 1) % exponentWeight = 0 := by
      simp only [exponentWeight] at hfull ⊢
      omega
    rw [hdiv, hmod, if_neg (Nat.succ_ne_zero _), Nat.add_sub_cancel, Nat.add_zero]
    split
    · next h =>
      simp only [h, Nat.pow_zero, Nat.mul_one, Nat.zero_sub]
      omega
    · next h =>
      obtain ⟨e, he⟩ := Nat.exists_eq_succ_of_ne_zero h
      simp only [he, Nat.succ_eq_add_one, Nat.add_sub_cancel]
      rw [show exponentWeight + rank % exponentWeight = 2 * exponentWeight - 1 by omega,
        Nat.pow_succ, Nat.sub_mul, Nat.one_mul]
      have : 2 ^ e ≤ 2 * exponentWeight * 2 ^ e := Nat.le_mul_of_pos_left _ (by omega)
      rw [Nat.sub_add_cancel this]
      ring

/-- The ladder has no two rungs of one size. -/
theorem unitsOf_strictMono : StrictMono unitsOf :=
  strictMono_nat_of_lt_succ fun rank => by
    rw [unitsOf_succ]
    exact Nat.lt_add_of_pos_right (Nat.two_pow_pos _)

@[simp] theorem unitsOf_zero : unitsOf 0 = 0 := by decide +kernel

@[simp] theorem unitsOf_one : unitsOf 1 = 1 := by decide +kernel

/-- A rank split into a shift and a significand. A significand below the weight
goes with no shift only. -/
theorem unitsOf_shift {shift m : Nat} (hm : shift = 0 ∨ exponentWeight ≤ m)
    (hle : m ≤ 2 * exponentWeight) : unitsOf (shift * exponentWeight + m) = m * 2 ^ shift := by
  simp only [unitsOf, decode, Nat.pow_eq]
  obtain hlt | hge := Nat.lt_or_ge m exponentWeight
  · obtain rfl : shift = 0 := by omega
    rw [Nat.zero_mul, Nat.zero_add, Nat.div_eq_of_lt hlt, Nat.mod_eq_of_lt hlt]
    rfl
  · obtain heq | hlt := Nat.eq_or_lt_of_le hle
    · -- The carry: the significand of the next binade is the weight itself.
      have hdiv : (shift * exponentWeight + m) / exponentWeight = shift + 2 := by
        rw [heq, ← Nat.add_mul, Nat.mul_div_cancel _ weight_pos]
      have hmod : (shift * exponentWeight + m) % exponentWeight = 0 := by
        rw [heq, ← Nat.add_mul, Nat.mul_mod_left]
      rw [hdiv, hmod, if_neg (Nat.succ_ne_zero _), heq]
      simp only [Nat.add_zero, show shift + 2 - 1 = shift + 1 from rfl, Nat.pow_succ]
      ring
    · have hdiv : (shift * exponentWeight + m) / exponentWeight = shift + 1 := by
        simp only [exponentWeight] at hge hlt ⊢
        omega
      have hmod : (shift * exponentWeight + m) % exponentWeight = m - exponentWeight := by
        simp only [exponentWeight] at hge hlt ⊢
        omega
      rw [hdiv, hmod, if_neg (Nat.succ_ne_zero _), Nat.add_sub_cancel]
      simp only [Nat.add_sub_of_le hge]

/-- The largest finite size is the one before `2 ^ 1024`, which is counted as the
size of infinity. -/
theorem unitsOf_infinityRank : unitsOf infinityRank = 2 ^ 1024 * one := by decide +kernel

/-! ### Patterns -/

variable {negative : Bool} {rank : Nat}

theorem infinityRank_lt_signWeight : infinityRank < signWeight := by decide

theorem toNat_bits_ofRank (h : rank ≤ infinityRank) :
    (ofRank negative rank).bits.toNat = if negative then signWeight + rank else rank := by
  rw [ofRank, UInt64.toNat_ofNat']
  refine Nat.mod_eq_of_lt ?_
  simp only [signWeight, infinityRank, exponentWeight] at h ⊢
  split <;> omega

@[simp] theorem rank_ofRank (h : rank ≤ infinityRank) : (ofRank negative rank).rank = rank := by
  have hlt : rank < signWeight := Nat.lt_of_le_of_lt h infinityRank_lt_signWeight
  rw [Binary64.rank, toNat_bits_ofRank h]
  split
  · rw [Nat.add_mod_left, Nat.mod_eq_of_lt hlt]
  · exact Nat.mod_eq_of_lt hlt

@[simp] theorem isNegative_ofRank (h : rank ≤ infinityRank) :
    (ofRank negative rank).isNegative = negative := by
  have hlt : rank < signWeight := Nat.lt_of_le_of_lt h infinityRank_lt_signWeight
  rw [isNegative, toNat_bits_ofRank h]
  cases negative with
  | true => simp
  | false => simpa using hlt

/-- A pattern is its sign and its rank. -/
theorem ofRank_isNegative_rank (x : Binary64) : ofRank x.isNegative x.rank = x := by
  have hlt : x.bits.toNat < 2 * signWeight := x.bits.toNat_lt
  have hbits : (if x.isNegative then signWeight + x.rank else x.rank) = x.bits.toNat := by
    rw [isNegative, Binary64.rank]
    by_cases h : signWeight ≤ x.bits.toNat
    · rw [decide_eq_true h, if_pos rfl, Nat.mod_eq_sub_mod h, Nat.mod_eq_of_lt (by omega)]
      exact Nat.add_sub_of_le h
    · rw [decide_eq_false h, if_neg Bool.false_ne_true, Nat.mod_eq_of_lt (Nat.lt_of_not_le h)]
  rw [ofRank, hbits, UInt64.ofNat_toNat]

end Binary64

end SqlProbe
