import SqlBuilder.Number.ShortestDecimal
import Mathlib.Algebra.Order.Field.Rat
import Mathlib.Tactic.Linarith
import Mathlib.Tactic.Positivity
import Mathlib.Tactic.Ring

/-!
# The intervals of floating-point numbers

The finite numbers without their signs are counted upwards by their bits. The interval that reads
back to a number begins where that of the number before it ends, and the end that the two share
belongs to the one with the even significand. The decimal that is written for a number lies in its
interval.
-/

namespace SqlBuilder

/-- The number that a decimal stands for. -/
def Decimal.value (d : Decimal) : ℚ :=
  d.digits * 10 ^ d.exponent

namespace Binary64

/-! ## Counting upwards -/

/-- The bits without the sign, as a number. -/
def rank (x : Binary64) : Nat :=
  x.bits.toNat % 2 ^ 63

/-- The significand of the number with a rank. -/
def significandAt (k : Nat) : Nat :=
  if k / 2 ^ 52 = 0 then k % 2 ^ 52 else 2 ^ 52 + k % 2 ^ 52

/-- The distance to the number with the next rank. -/
def spacingAt (k : Nat) : Nat :=
  2 ^ (k / 2 ^ 52 - 1)

/-- The end of the interval of the number with a rank. -/
def upperAt (k : Nat) : Nat :=
  4 * (significandAt k * spacingAt k) + 2 * spacingAt k

/-- The beginning of the interval of the number with a rank. -/
def lowerAt (k : Nat) : Nat :=
  4 * (significandAt k * spacingAt k)
    - (if k % 2 ^ 52 = 0 ∧ 1 < k / 2 ^ 52 then spacingAt k else 2 * spacingAt k)

theorem exponentField_eq (x : Binary64) : x.exponentField = x.rank / 2 ^ 52 := by
  have hlt := x.bits.toNat_lt
  rw [exponentField, rank, Nat.shiftRight_eq_div_pow, Nat.one_shiftLeft]
  omega

theorem fractionField_eq (x : Binary64) : x.fractionField = x.rank % 2 ^ 52 := by
  rw [fractionField, rank, Nat.one_shiftLeft]
  omega

theorem significand_eq (x : Binary64) : x.significand = significandAt x.rank := by
  rw [significand, significandAt, exponentField_eq, fractionField_eq, Nat.one_shiftLeft]

theorem spacing_eq (x : Binary64) : x.spacing = spacingAt x.rank := by
  rw [spacing, spacingAt, exponentField_eq, Nat.one_shiftLeft]

theorem upperEnd_eq (x : Binary64) : x.upperEnd = upperAt x.rank := by
  rw [upperEnd, upperAt, quarters, magnitude, significand_eq, spacing_eq]

theorem lowerEnd_eq (x : Binary64) : x.lowerEnd = lowerAt x.rank := by
  rw [lowerEnd, lowerAt, quarters, magnitude, significand_eq, spacing_eq, isNarrowBelow,
    fractionField_eq, exponentField_eq]
  simp only [Bool.and_eq_true, beq_iff_eq, decide_eq_true_eq]

/-- Two numbers with the same sign and the same rank are the same. -/
theorem eq_of_rank_eq {x y : Binary64} (hsign : x.isNegative = y.isNegative)
    (hrank : x.rank = y.rank) : x = y := by
  have hx := x.bits.toNat_lt
  have hy := y.bits.toNat_lt
  simp only [isNegative, rank, Nat.one_shiftLeft, decide_eq_decide] at hsign hrank
  have hbits : x.bits.toNat = y.bits.toNat := by omega
  cases x
  cases y
  rw [Binary64.mk.injEq]
  exact UInt64.toNat_inj.mp hbits

/-! ## Intervals follow each other -/

/-- Inside of a binade and below the normal range the spacing stays the same. -/
theorem succ_div_mod (k : Nat) :
    (k % 2 ^ 52 + 1 < 2 ^ 52 ∧ (k + 1) / 2 ^ 52 = k / 2 ^ 52 ∧ (k + 1) % 2 ^ 52 = k % 2 ^ 52 + 1) ∨
      (k % 2 ^ 52 + 1 = 2 ^ 52 ∧ (k + 1) / 2 ^ 52 = k / 2 ^ 52 + 1 ∧ (k + 1) % 2 ^ 52 = 0) := by
  omega

theorem spacingAt_pos (k : Nat) : 0 < spacingAt k :=
  Nat.two_pow_pos _

/-- The interval of a number begins where that of the number before it ends. -/
theorem lowerAt_succ (k : Nat) : lowerAt (k + 1) = upperAt k := by
  rcases succ_div_mod k with ⟨hinside, hdiv, hmod⟩ | ⟨hlast, hdiv, hmod⟩
  · -- Inside of a binade only the significand grows.
    have hwide : ¬(k % 2 ^ 52 + 1 = 0 ∧ 1 < k / 2 ^ 52) := by omega
    have hsignificand : significandAt (k + 1) = significandAt k + 1 := by
      rw [significandAt, significandAt, hdiv, hmod]
      split <;> omega
    rw [lowerAt, upperAt, hsignificand, spacingAt, spacingAt, hdiv, hmod, if_neg hwide, Nat.add_mul]
    omega
  · by_cases hnormal : k / 2 ^ 52 = 0
    · -- The normal range begins with the spacing that the numbers below it have.
      have hsignificand : significandAt (k + 1) = 2 ^ 52 ∧ significandAt k = 2 ^ 52 - 1 := by
        rw [significandAt, significandAt, hdiv, hmod, if_neg (by omega), if_pos hnormal]
        omega
      have hspacing : spacingAt (k + 1) = 1 ∧ spacingAt k = 1 := by
        rw [spacingAt, spacingAt, hdiv, hnormal]
        decide
      rw [lowerAt, upperAt, hsignificand.1, hsignificand.2, hspacing.1, hspacing.2, hdiv, hmod,
        if_neg (by omega)]
      omega
    · -- The spacing doubles, and the interval is narrow below to make up for that.
      obtain ⟨e, he⟩ := Nat.exists_eq_succ_of_ne_zero hnormal
      have hspacing : spacingAt (k + 1) = 2 * spacingAt k := by
        rw [spacingAt, spacingAt, hdiv, he, Nat.succ_eq_add_one, Nat.add_sub_cancel,
          Nat.add_sub_cancel, Nat.pow_succ']
      have hsignificand : significandAt (k + 1) = 2 ^ 52 ∧ significandAt k = 2 ^ 53 - 1 := by
        rw [significandAt, significandAt, hdiv, hmod, if_neg (by omega), if_neg hnormal]
        omega
      rw [lowerAt, upperAt, hsignificand.1, hsignificand.2, hspacing, hdiv, hmod,
        if_pos ⟨rfl, by omega⟩]
      omega

theorem significandAt_mod_two (k : Nat) : significandAt k % 2 = k % 2 := by
  rw [significandAt]
  split <;> omega

/-! ## What reads back -/

/-- The number, in quarters of the least positive one, belongs to the interval. -/
def Holds (x : Binary64) (v : ℚ) : Prop :=
  if x.significand % 2 = 0 then x.lowerEnd ≤ v ∧ v ≤ x.upperEnd else x.lowerEnd < v ∧ v < x.upperEnd

theorem Holds.le {x : Binary64} {v : ℚ} (h : x.Holds v) : x.lowerEnd ≤ v ∧ v ≤ x.upperEnd := by
  rw [Holds] at h
  split at h
  · exact h
  · exact ⟨h.1.le, h.2.le⟩

/-- Only a number with an even significand has the ends of its interval. -/
theorem Holds.even {x : Binary64} {v : ℚ} (h : x.Holds v) (hend : v = x.lowerEnd ∨ v = x.upperEnd) :
    x.significand % 2 = 0 := by
  by_contra hodd
  rw [Holds, if_neg hodd] at h
  rcases hend with rfl | rfl
  · exact lt_irrefl _ h.1
  · exact lt_irrefl _ h.2

/-! ## The shortest decimal reads back -/

theorem zpow_mul_pow_toNat (e : Int) : (10 : ℚ) ^ e * 10 ^ (-e).toNat = 10 ^ e.toNat := by
  have hten : (10 : ℚ) ≠ 0 := by norm_num
  rw [← zpow_natCast, ← zpow_natCast, ← zpow_add₀ hten]
  congr 1
  omega

theorem readsBack_iff (x : Binary64) (d : Decimal) :
    x.readsBack d ↔ x.Holds (d.value * quartersInOne) := by
  -- The check multiplies both sides by this power, so that no exponent is negative.
  have hshift : (0 : ℚ) < 10 ^ (-d.exponent).toNat := by positivity
  have hscaled : ((d.digits * Nat.pow 10 d.exponent.toNat * quartersInOne : ℕ) : ℚ)
      = d.value * quartersInOne * 10 ^ (-d.exponent).toNat := by
    rw [Nat.pow_eq, Decimal.value, Nat.cast_mul, Nat.cast_mul, Nat.cast_pow, Nat.cast_ofNat,
      ← zpow_mul_pow_toNat]
    ring
  have hscale (n : ℕ) :
      ((n * Nat.pow 10 (-d.exponent).toNat : ℕ) : ℚ) = n * 10 ^ (-d.exponent).toNat := by
    rw [Nat.pow_eq, Nat.cast_mul, Nat.cast_pow, Nat.cast_ofNat]
  rw [readsBack, Holds]
  split
  · rw [Bool.and_eq_true, decide_eq_true_eq, decide_eq_true_eq, ← Nat.cast_le (α := ℚ),
      ← Nat.cast_le (α := ℚ), hscale, hscale, hscaled, mul_le_mul_iff_of_pos_right hshift,
      mul_le_mul_iff_of_pos_right hshift]
  · rw [Bool.and_eq_true, decide_eq_true_eq, decide_eq_true_eq, ← Nat.cast_lt (α := ℚ),
      ← Nat.cast_lt (α := ℚ), hscale, hscale, hscaled, mul_lt_mul_iff_of_pos_right hshift,
      mul_lt_mul_iff_of_pos_right hshift]

theorem value_stripped (d : Decimal) (fuel : Nat) : (d.stripped fuel).value = d.value := by
  fun_induction Decimal.stripped d fuel with
  | case1 d => rfl
  | case2 d fuel hzero ih =>
    have hten : (10 : ℚ) ≠ 0 := by norm_num
    have hdigits : ((d.digits / 10 : ℕ) : ℚ) * 10 = d.digits := by
      exact_mod_cast Nat.div_mul_cancel (Nat.dvd_of_mod_eq_zero hzero)
    rw [ih, Decimal.value, Decimal.value, zpow_add_one₀ hten, ← hdigits]
    ring
  | case3 d fuel _ => rfl

theorem readsBack_of_onGrid? {x : Binary64} {exponent : Int} {d : Decimal}
    (h : x.onGrid? exponent = some d) : x.readsBack d := by
  rw [onGrid?] at h
  split at h
  · next hlow hhigh =>
    obtain rfl := Option.some.inj h
    split
    · exact hhigh
    · exact hlow
  · next hlow _ => exact Option.some.inj h ▸ hlow
  · next _ hhigh => exact Option.some.inj h ▸ hhigh
  · simp at h

/-- Halving is multiplying by five and moving the point. -/
theorem value_of_halves (q n : ℕ) :
    (Decimal.mk (q * Nat.pow 5 n) (-n)).value * (1 <<< n : ℕ) = q := by
  have hten : (10 : ℚ) ^ n = 5 ^ n * 2 ^ n := by
    rw [← mul_pow]
    norm_num
  have hne : (5 : ℚ) ^ n * 2 ^ n ≠ 0 := by positivity
  rw [Decimal.value, Nat.one_shiftLeft, Nat.pow_eq, Nat.cast_mul, Nat.cast_pow, Nat.cast_pow,
    Nat.cast_ofNat, Nat.cast_ofNat, zpow_neg, zpow_natCast, hten]
  calc (q : ℚ) * 5 ^ n * (5 ^ n * 2 ^ n)⁻¹ * 2 ^ n
      = q * ((5 ^ n * 2 ^ n) * (5 ^ n * 2 ^ n)⁻¹) := by ring
    _ = q := by rw [mul_inv_cancel₀ hne, mul_one]

theorem holds_of_lt {x : Binary64} {v : ℚ} (hlower : x.lowerEnd < v) (hupper : v < x.upperEnd) :
    x.Holds v := by
  rw [Holds]
  split
  · exact ⟨hlower.le, hupper.le⟩
  · exact ⟨hlower, hupper⟩

/-- A number other than zero lies inside of its interval. -/
theorem quarters_mem_interval {x : Binary64} (hx : x.magnitude ≠ 0) :
    x.lowerEnd < x.quarters ∧ x.quarters < x.upperEnd := by
  have hspacing : 0 < x.spacing := x.spacing_eq ▸ spacingAt_pos _
  have hquarters : 0 < x.quarters := Nat.mul_pos (by decide) (Nat.pos_of_ne_zero hx)
  rw [lowerEnd, upperEnd]
  split <;> omega

/-- The number itself belongs to its interval. -/
theorem holds_quarters {x : Binary64} (hx : x.magnitude ≠ 0) : x.Holds x.quarters := by
  obtain ⟨hlower, hupper⟩ := quarters_mem_interval hx
  exact holds_of_lt (by exact_mod_cast hlower) (by exact_mod_cast hupper)

/-- The number itself as a decimal belongs to its interval. -/
theorem holds_exactDecimal {x : Binary64} (hx : x.magnitude ≠ 0) :
    x.Holds (x.exactDecimal.value * quartersInOne) := by
  have hexact : x.exactDecimal.value * quartersInOne = x.quarters := by
    have hexponent : (-1076 : Int) = -(1076 : ℕ) := by norm_num
    rw [exactDecimal, quartersInOne, hexponent]
    -- The power is never computed.
    generalize 1076 = n
    exact value_of_halves x.quarters n
  rw [hexact]
  exact holds_quarters hx

theorem holds_shortest {x : Binary64} (hx : x.magnitude ≠ 0) :
    x.Holds (x.shortest.value * quartersInOne) := by
  rw [shortest]
  split
  · next d hd =>
    obtain ⟨n, -, hn⟩ := List.exists_of_findSome?_eq_some hd
    rw [value_stripped]
    exact (x.readsBack_iff d).mp (readsBack_of_onGrid? hn)
  · exact holds_exactDecimal hx

end Binary64

end SqlBuilder
