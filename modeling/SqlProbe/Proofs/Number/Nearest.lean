import Mathlib.Algebra.Order.Field.Basic
import Mathlib.Algebra.Order.Ring.Abs
import Mathlib.Algebra.Order.Ring.Rat
import Mathlib.Tactic.FieldSimp
import Mathlib.Tactic.Linarith
import SqlProbe.Proofs.Number.Sizes

/-!
# The nearest binary64 number

Rounding to nearest, as a relation and as a computation. `Binary64.IsNearest q
rank` says that of all sizes of the format the one of `rank` is nearest to the
rational `q`, the even one of two equally near. Infinity takes part as the size
`2 ^ 1024`, the first power of two past the largest finite size, which is the rule
for overflow: a quotient rounds to infinity from half way up to that power.

The relation is brought into a form without absolute values: `q` lies between the
midpoints on either side of the size, and on a midpoint only if the rank is even
(`Binary64.isNearest_iff_covers`). Since the midpoints of neighbours are in order,
a larger number has no smaller rank (`Binary64.IsNearest.le_of_le`), so that there
is at most one nearest rank (`Binary64.IsNearest.unique`).

`Binary64.isNearest_nearestRank` says that the computation finds it. It cuts the
quotient to the 53 bits of a significand and rounds that to an integer. The integer
is within half a step of the ladder on either side, except where the significand
is the smallest of its binade, for below it the step is half as long. There the cut
makes up for it: the significand was not rounded up.
-/

namespace SqlProbe

namespace Binary64

/-! ### The relation -/

/-- The size a rank stands for, infinity counting as `2 ^ 1024`. -/
def size (rank : Nat) : ℚ := (unitsOf rank : ℚ) / (one : ℚ)

/-- **Nearest, ties to even.** The size of `rank` is nearest to `q` of all sizes,
and if another one is as near, `rank` is even. -/
structure IsNearest (q : ℚ) (rank : Nat) : Prop where
  /-- The rank is one of the format. -/
  le_infinity : rank ≤ infinityRank
  /-- No other size is nearer. -/
  closest : ∀ r ≤ infinityRank, |q - size rank| ≤ |q - size r|
  /-- Of two equally near ones it is the even one. -/
  even_of_tie : ∀ r ≤ infinityRank, r ≠ rank → |q - size r| = |q - size rank| → Even rank

theorem one_pos : 0 < one := by decide +kernel

theorem size_strictMono : StrictMono size := fun _ _ h =>
  div_lt_div_of_pos_right (Nat.cast_lt.mpr (unitsOf_strictMono h)) (Nat.cast_pos.mpr one_pos)

@[simp] theorem size_zero : size 0 = 0 := by rw [size, unitsOf_zero, Nat.cast_zero, zero_div]

theorem size_infinityRank : size infinityRank = 2 ^ 1024 := by
  rw [size, unitsOf_infinityRank, Nat.cast_mul, mul_div_assoc,
    div_self (Nat.cast_ne_zero.mpr one_pos.ne'), mul_one, Nat.cast_pow, Nat.cast_ofNat]

/-! ### Between midpoints -/

/-- A number is covered by a rank if it lies between the midpoints on either side
of its size, and on one of them only if the rank is even. -/
structure Covers (rank : Nat) (q : ℚ) : Prop where
  le_infinity : rank ≤ infinityRank
  lower : ∀ r, r + 1 = rank → size r + size rank ≤ 2 * q
  even_of_lower : ∀ r, r + 1 = rank → size r + size rank = 2 * q → Even rank
  upper : rank < infinityRank → 2 * q ≤ size rank + size (rank + 1)
  even_of_upper : rank < infinityRank → 2 * q = size rank + size (rank + 1) → Even rank

/-- The larger of two numbers is the nearer one from their midpoint on. -/
theorem abs_sub_le_abs_sub_iff {a b q : ℚ} (h : a < b) :
    |q - b| ≤ |q - a| ↔ a + b ≤ 2 * q := by
  have hsq : (q - a) ^ 2 - (q - b) ^ 2 = (b - a) * (2 * q - (a + b)) := by ring
  rw [← sq_le_sq, ← sub_nonneg, hsq, mul_nonneg_iff_of_pos_left (sub_pos.mpr h), sub_nonneg]

theorem abs_sub_le_abs_sub_iff' {a b q : ℚ} (h : a < b) :
    |q - a| ≤ |q - b| ↔ 2 * q ≤ a + b := by
  have hsq : (q - b) ^ 2 - (q - a) ^ 2 = (b - a) * (a + b - 2 * q) := by ring
  rw [← sq_le_sq, ← sub_nonneg, hsq, mul_nonneg_iff_of_pos_left (sub_pos.mpr h), sub_nonneg]

theorem abs_sub_eq_abs_sub_iff {a b q : ℚ} (h : a < b) :
    |q - a| = |q - b| ↔ a + b = 2 * q := by
  rw [le_antisymm_iff, le_antisymm_iff, abs_sub_le_abs_sub_iff h, abs_sub_le_abs_sub_iff' h,
    and_comm]

/-- Nearest is the same as covered. -/
theorem isNearest_iff_covers {q : ℚ} {rank : Nat} : IsNearest q rank ↔ Covers rank q := by
  constructor
  · intro h
    refine ⟨h.le_infinity, ?_, ?_, ?_, ?_⟩
    · rintro r rfl
      exact (abs_sub_le_abs_sub_iff (size_strictMono r.lt_succ_self)).mp
        (h.closest r (r.le_succ.trans h.le_infinity))
    · rintro r rfl heq
      exact h.even_of_tie r (r.le_succ.trans h.le_infinity) r.lt_succ_self.ne
        ((abs_sub_eq_abs_sub_iff (size_strictMono r.lt_succ_self)).mpr heq)
    · intro hlt
      exact (abs_sub_le_abs_sub_iff' (size_strictMono rank.lt_succ_self)).mp
        (h.closest (rank + 1) hlt)
    · intro hlt heq
      exact h.even_of_tie (rank + 1) hlt rank.lt_succ_self.ne'
        ((abs_sub_eq_abs_sub_iff (size_strictMono rank.lt_succ_self)).mpr heq.symm).symm
  · intro h
    -- A farther rank has its midpoint farther out than the neighbour has.
    have below : ∀ r < rank, size r + size rank ≤ 2 * q ∧
        (size r + size rank = 2 * q → Even rank) := by
      intro r hr
      obtain ⟨s, rfl⟩ := Nat.exists_eq_add_one_of_ne_zero (Nat.ne_zero_of_lt hr)
      obtain rfl | hlt := Nat.eq_or_lt_of_le (Nat.le_of_lt_succ hr)
      · exact ⟨h.lower _ rfl, h.even_of_lower _ rfl⟩
      · have hs := size_strictMono hlt
        have hl := h.lower s rfl
        exact ⟨by linarith, fun heq => by linarith⟩
    have above : ∀ r ≤ infinityRank, rank < r → 2 * q ≤ size rank + size r ∧
        (size rank + size r = 2 * q → Even rank) := by
      intro r hi hr
      obtain rfl | hlt := Nat.eq_or_lt_of_le (Nat.succ_le_of_lt hr)
      · exact ⟨h.upper hi, fun heq => h.even_of_upper hi heq.symm⟩
      · have hs := size_strictMono hlt
        have hu := h.upper (hr.trans_le hi)
        exact ⟨by linarith, fun heq => by linarith⟩
    refine ⟨h.le_infinity, ?_, ?_⟩
    · intro r hi
      obtain hr | rfl | hr := Nat.lt_trichotomy r rank
      · exact (abs_sub_le_abs_sub_iff (size_strictMono hr)).mpr (below r hr).1
      · exact le_rfl
      · exact (abs_sub_le_abs_sub_iff' (size_strictMono hr)).mpr (above r hi hr).1
    · intro r hi hne heq
      obtain hr | hr := Nat.lt_or_gt_of_ne hne
      · exact (below r hr).2 ((abs_sub_eq_abs_sub_iff (size_strictMono hr)).mp heq)
      · exact (above r hi hr).2 ((abs_sub_eq_abs_sub_iff (size_strictMono hr)).mp heq.symm)

namespace IsNearest

variable {q q' : ℚ} {rank rank' : Nat}

/-- **Rounding is monotone.** If a larger number had a smaller rank, both would
lie on one midpoint, and then both ranks are even although they are neighbours. -/
theorem le_of_le (h : IsNearest q rank) (h' : IsNearest q' rank') (hq : q ≤ q') :
    rank ≤ rank' := by
  rw [isNearest_iff_covers] at h h'
  by_contra hlt
  rw [Nat.not_le] at hlt
  obtain ⟨r, rfl⟩ := Nat.exists_eq_add_one_of_ne_zero (Nat.ne_zero_of_lt hlt)
  have hupper := h'.upper (hlt.trans_le h.le_infinity)
  have hlower := h.lower r rfl
  have hsize : size rank' ≤ size r := size_strictMono.monotone (Nat.le_of_lt_succ hlt)
  have hsize' : size (rank' + 1) ≤ size (r + 1) := size_strictMono.monotone hlt
  have hr : rank' = r := size_strictMono.injective (by linarith)
  subst hr
  have heven := h.even_of_lower rank' rfl (by linarith)
  have heven' := h'.even_of_upper (hlt.trans_le h.le_infinity) (by linarith)
  exact (Nat.even_add_one.mp heven) heven'

/-- There is one nearest rank at most. -/
theorem unique (h : IsNearest q rank) (h' : IsNearest q rank') : rank = rank' :=
  le_antisymm (h.le_of_le h' le_rfl) (h'.le_of_le h le_rfl)

/-- A number below half of the smallest size rounds to zero. -/
theorem zero (hq : 2 * q < size 1) : IsNearest q 0 := by
  refine isNearest_iff_covers.mpr ⟨Nat.zero_le _, fun r hr => absurd hr r.succ_ne_zero,
    fun r hr => absurd hr r.succ_ne_zero, fun _ => ?_, fun _ _ => Even.zero⟩
  rw [size_zero, zero_add]
  exact hq.le

/-- A number from `2 ^ 1024` on rounds to infinity. -/
theorem infinity (hq : 2 ^ 1024 ≤ q) : IsNearest q infinityRank := by
  refine isNearest_iff_covers.mpr ⟨le_rfl, fun r hr => ?_, fun _ _ _ => by decide,
    fun h => absurd h (lt_irrefl _), fun h => absurd h (lt_irrefl _)⟩
  have hlt : size r < size infinityRank := size_strictMono (hr ▸ r.lt_succ_self)
  rw [← size_infinityRank] at hq
  linarith

end IsNearest

/-! ### The computation -/

/-- Rounding a quotient to an integer goes by at most half of the divisor, and by
half of it only to an even integer. -/
theorem roundHalfEven_spec {num den m : Nat} (hden : 0 < den) (hm : roundHalfEven num den = m) :
    2 * (m * den) ≤ 2 * num + den ∧ (2 * (m * den) = 2 * num + den → Even m) ∧
      2 * num ≤ 2 * (m * den) + den ∧ (2 * num = 2 * (m * den) + den → Even m) := by
  have hsum : num / den * den + num % den = num := Nat.div_add_mod' num den
  have hlt : num % den < den := Nat.mod_lt num hden
  rw [roundHalfEven] at hm
  generalize num / den = k at hsum hm
  split at hm
  · subst hm
    exact ⟨by omega, fun h => by omega, by omega, fun h => by omega⟩
  · split at hm
    · subst hm
      rw [Nat.succ_mul k den]
      exact ⟨by omega, fun h => by omega, by omega, fun h => by omega⟩
    · -- A tie, which goes to the even one of `k` and `k + 1`.
      have heven : Even m := by
        rw [Nat.even_iff]
        omega
      obtain hk | hk := Nat.mod_two_eq_zero_or_one k
      · obtain rfl : k = m := by omega
        exact ⟨by omega, fun _ => heven, by omega, fun _ => heven⟩
      · obtain rfl : k + 1 = m := by omega
        rw [Nat.succ_mul k den]
        exact ⟨by omega, fun _ => heven, by omega, fun _ => heven⟩

/-- How far a quotient of units is cut. -/
def shiftOf (whole : Nat) : Nat :=
  if whole < 2 * exponentWeight then 0 else whole.log2 - 52

/-- The rank before it is clamped to that of infinity. -/
def unclampedRank (num den : Nat) : Nat :=
  shiftOf (num * one / den) * exponentWeight +
    roundHalfEven (num * one) (den * 2 ^ shiftOf (num * one / den))

theorem nearestRank_eq_min (num den : Nat) :
    nearestRank num den = min (unclampedRank num den) infinityRank := rfl

/-- After the cut the significand has at most 53 bits, and exactly 53 if anything
was cut. -/
theorem shiftOf_spec {n den shift : Nat} (hden : 0 < den) (hs : shiftOf (n / den) = shift) :
    n < 2 * exponentWeight * (den * 2 ^ shift) ∧
      (shift = 0 ∨ exponentWeight * (den * 2 ^ shift) ≤ n) := by
  rw [shiftOf] at hs
  split at hs
  · next hlt =>
    subst hs
    refine ⟨?_, .inl rfl⟩
    rw [Nat.pow_zero, Nat.mul_one]
    exact (Nat.div_lt_iff_lt_mul hden).mp hlt
  · next hge =>
    have hwhole : n / den ≠ 0 := by
      intro h
      rw [h] at hge
      exact hge (by decide)
    have hlog : 53 ≤ (n / den).log2 := (Nat.le_log2 hwhole).mpr (Nat.not_lt.mp hge)
    have hpow : exponentWeight * 2 ^ shift = 2 ^ (n / den).log2 := by
      rw [show exponentWeight = 2 ^ 52 by decide, ← Nat.pow_add, ← hs,
        Nat.add_sub_of_le (by omega)]
    constructor
    · calc n < 2 ^ ((n / den).log2 + 1) * den :=
            (Nat.div_lt_iff_lt_mul hden).mp Nat.lt_log2_self
        _ = 2 * exponentWeight * (den * 2 ^ shift) := by
            rw [Nat.pow_succ, ← hpow]
            ring
    · refine .inr ?_
      calc exponentWeight * (den * 2 ^ shift) = 2 ^ (n / den).log2 * den := by
            rw [← hpow]
            ring
        _ ≤ n / den * den := Nat.mul_le_mul_right _ (Nat.log2_self_le hwhole)
        _ ≤ n := Nat.div_mul_le_self n den

section Units

variable {num den a b : Nat}

/-- Midpoints compared with a quotient, in units. -/
theorem size_add_size_le_iff (hden : 0 < den) :
    size a + size b ≤ 2 * ((num : ℚ) / den) ↔
      (unitsOf a + unitsOf b) * den ≤ 2 * (num * one) := by
  have hone : (0 : ℚ) < one := Nat.cast_pos.mpr one_pos
  have hden' : (0 : ℚ) < den := Nat.cast_pos.mpr hden
  rw [size, size, ← add_div, ← mul_div_assoc, div_le_div_iff₀ hone hden', mul_assoc]
  exact_mod_cast Iff.rfl

theorem le_size_add_size_iff (hden : 0 < den) :
    2 * ((num : ℚ) / den) ≤ size a + size b ↔
      2 * (num * one) ≤ (unitsOf a + unitsOf b) * den := by
  have hone : (0 : ℚ) < one := Nat.cast_pos.mpr one_pos
  have hden' : (0 : ℚ) < den := Nat.cast_pos.mpr hden
  rw [size, size, ← add_div, ← mul_div_assoc, div_le_div_iff₀ hden' hone, mul_assoc]
  exact_mod_cast Iff.rfl

theorem size_add_size_eq_iff (hden : 0 < den) :
    size a + size b = 2 * ((num : ℚ) / den) ↔
      (unitsOf a + unitsOf b) * den = 2 * (num * one) := by
  rw [le_antisymm_iff, le_antisymm_iff, size_add_size_le_iff hden, le_size_add_size_iff hden]

end Units

/-- The step of the ladder below a rank is the shift of its significand, unless
the significand is the smallest that is shifted. -/
theorem step_below {r shift m : Nat} (hr : r + 1 = shift * exponentWeight + m)
    (hm : shift = 0 ∨ exponentWeight ≤ m) (hle : m ≤ 2 * exponentWeight) :
    r / exponentWeight - 1 = shift ∨ m = exponentWeight ∧ 0 < shift := by
  simp only [exponentWeight] at hr hm hle ⊢
  omega

/-- The step of the ladder above a rank is at least the shift of its significand. -/
theorem le_step_above {shift m : Nat} (hm : shift = 0 ∨ exponentWeight ≤ m) :
    shift ≤ (shift * exponentWeight + m) / exponentWeight - 1 := by
  simp only [exponentWeight] at hm ⊢
  omega

theorem even_shift_add {shift m : Nat} (hm : Even m) : Even (shift * exponentWeight + m) :=
  ((show Even exponentWeight by decide).mul_left shift).add hm

section Unclamped

variable {num den : Nat}

/-- What the computation knows about the significand it rounds to. -/
theorem unclampedRank_spec (num : Nat) (hden : 0 < den) :
    ∃ shift m, unclampedRank num den = shift * exponentWeight + m ∧
      roundHalfEven (num * one) (den * 2 ^ shift) = m ∧
      m ≤ 2 * exponentWeight ∧
      (shift = 0 ∨ exponentWeight ≤ m ∧ exponentWeight * (den * 2 ^ shift) ≤ num * one) := by
  obtain ⟨hlt, hcut⟩ := shiftOf_spec (n := num * one) hden rfl
  refine ⟨_, _, rfl, rfl, ?_, hcut.imp_right fun hge => ⟨?_, hge⟩⟩ <;>
    generalize shiftOf (num * one / den) = shift at *
  · have hpos : 0 < den * 2 ^ shift := Nat.mul_pos hden (Nat.two_pow_pos _)
    obtain ⟨hup, -, -, -⟩ := roundHalfEven_spec hpos (Eq.refl (roundHalfEven (num * one) _))
    have : roundHalfEven (num * one) (den * 2 ^ shift) * (den * 2 ^ shift) <
        (2 * exponentWeight + 1) * (den * 2 ^ shift) := by
      rw [Nat.add_mul]
      omega
    exact Nat.le_of_lt_succ (Nat.lt_of_mul_lt_mul_right this)
  · have hpos : 0 < den * 2 ^ shift := Nat.mul_pos hden (Nat.two_pow_pos _)
    obtain ⟨-, -, hdown, -⟩ := roundHalfEven_spec hpos (Eq.refl (roundHalfEven (num * one) _))
    have : exponentWeight * (den * 2 ^ shift) <
        (roundHalfEven (num * one) (den * 2 ^ shift) + 1) * (den * 2 ^ shift) := by
      rw [Nat.add_mul]
      omega
    exact Nat.le_of_lt_succ (Nat.lt_of_mul_lt_mul_right this)

/-- The computed rank is not too large. -/
theorem unclampedRank_lower (hden : 0 < den) {r : Nat} (hr : r + 1 = unclampedRank num den) :
    (unitsOf r + unitsOf (r + 1)) * den ≤ 2 * (num * one) ∧
      ((unitsOf r + unitsOf (r + 1)) * den = 2 * (num * one) → Even (r + 1)) := by
  obtain ⟨shift, m, hrank, hm, hle, hcut⟩ := unclampedRank_spec num hden
  have hpos : 0 < den * 2 ^ shift := Nat.mul_pos hden (Nat.two_pow_pos _)
  obtain ⟨hup, heven, -, -⟩ := roundHalfEven_spec hpos hm
  rw [hrank] at hr
  have hcut' : shift = 0 ∨ exponentWeight ≤ m := hcut.imp_right And.left
  have hunits : unitsOf (r + 1) * den = m * (den * 2 ^ shift) := by
    rw [hr, unitsOf_shift hcut' hle]
    ring
  have hstep : unitsOf (r + 1) * den =
      unitsOf r * den + den * 2 ^ (r / exponentWeight - 1) := by
    rw [unitsOf_succ]
    ring
  rw [Nat.add_mul]
  obtain h | ⟨hsmall, hshift⟩ := step_below hr hcut' hle
  · rw [h] at hstep
    refine ⟨by omega, fun heq => ?_⟩
    rw [hr]
    exact even_shift_add (heven (by omega))
  · -- The shorter step below the smallest significand, which was not rounded up.
    have hstep_pos : 0 < den * 2 ^ (r / exponentWeight - 1) :=
      Nat.mul_pos hden (Nat.two_pow_pos _)
    have hge := (hcut.resolve_left hshift.ne').2
    rw [← hsmall] at hge
    exact ⟨by omega, fun heq => by omega⟩

/-- The computed rank is not too small. -/
theorem unclampedRank_upper (hden : 0 < den) :
    2 * (num * one) ≤
        (unitsOf (unclampedRank num den) + unitsOf (unclampedRank num den + 1)) * den ∧
      (2 * (num * one) =
          (unitsOf (unclampedRank num den) + unitsOf (unclampedRank num den + 1)) * den →
        Even (unclampedRank num den)) := by
  obtain ⟨shift, m, hrank, hm, hle, hcut⟩ := unclampedRank_spec num hden
  have hpos : 0 < den * 2 ^ shift := Nat.mul_pos hden (Nat.two_pow_pos _)
  obtain ⟨-, -, hdown, heven⟩ := roundHalfEven_spec hpos hm
  have hcut' : shift = 0 ∨ exponentWeight ≤ m := hcut.imp_right And.left
  rw [hrank]
  have hunits : unitsOf (shift * exponentWeight + m) * den = m * (den * 2 ^ shift) := by
    rw [unitsOf_shift hcut' hle]
    ring
  have hstep : den * 2 ^ shift ≤
      2 ^ ((shift * exponentWeight + m) / exponentWeight - 1) * den := by
    rw [Nat.mul_comm den]
    exact Nat.mul_le_mul_right _ (Nat.pow_le_pow_right Nat.two_pos (le_step_above hcut'))
  rw [unitsOf_succ, Nat.add_mul, Nat.add_mul, hunits]
  exact ⟨by omega, fun heq => even_shift_add (heven (by omega))⟩

end Unclamped

/-- **The computation rounds to nearest.** -/
theorem isNearest_nearestRank (num : Nat) {den : Nat} (hden : 0 < den) :
    IsNearest ((num : ℚ) / den) (nearestRank num den) := by
  rw [isNearest_iff_covers, nearestRank_eq_min]
  have lower : ∀ r, r + 1 = unclampedRank num den →
      size r + size (r + 1) ≤ 2 * ((num : ℚ) / den) :=
    fun r hr => (size_add_size_le_iff hden).mpr (unclampedRank_lower hden hr).1
  obtain hle | hlt := le_or_gt (unclampedRank num den) infinityRank
  · rw [Nat.min_eq_left hle]
    refine ⟨hle, ?_, ?_, fun _ => ?_, fun _ heq => ?_⟩
    · rintro r hr
      rw [← hr]
      exact lower r hr
    · intro r hr heq
      rw [← hr] at heq ⊢
      exact (unclampedRank_lower hden hr).2 ((size_add_size_eq_iff hden).mp heq)
    · exact (le_size_add_size_iff hden).mpr (unclampedRank_upper hden).1
    · exact (unclampedRank_upper hden).2 ((size_add_size_eq_iff hden).mp heq.symm).symm
  · -- Past infinity the midpoint below is farther up still.
    rw [Nat.min_eq_right hlt.le]
    refine ⟨le_rfl, fun r hr => ?_, fun _ _ _ => by decide, fun h => absurd h (lt_irrefl _),
      fun h => absurd h (lt_irrefl _)⟩
    obtain ⟨k, hk⟩ := Nat.exists_eq_add_one_of_ne_zero (Nat.ne_zero_of_lt hlt)
    have hsize : size r ≤ size k := size_strictMono.monotone (by omega)
    have hsize' : size infinityRank ≤ size (k + 1) := size_strictMono.monotone (by omega)
    have := lower k hk.symm
    linarith

end Binary64

end SqlProbe
