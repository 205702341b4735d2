import SqlBuilder.Proofs.Number.Interval
import Mathlib.Tactic.NormNum.Ineq

/-!
# Rounding to floating-point numbers

A number is rounded to the nearest number of double precision, and one halfway between two of them
to the one with the even significand. The numbers are those that are not NaN: behind the largest
finite one the infinity counts as if the numbers went on there, so what is far above all of them is
rounded to it. The interval of a number holds only what is rounded to it, and there is never a
choice.
-/

namespace SqlBuilder.Binary64

/-! ## Neighbours -/

/-- The absolute value of the number with a rank, in quarters of the least positive number. -/
def quartersAt (k : Nat) : Nat :=
  4 * (significandAt k * spacingAt k)

theorem quarters_eq (x : Binary64) : x.quarters = quartersAt x.rank := by
  rw [quarters, quartersAt, magnitude, significand_eq, spacing_eq]

theorem spacingAt_succ (k : Nat) : spacingAt (k + 1) =
    if (k + 1) % 2 ^ 52 = 0 ∧ 1 < (k + 1) / 2 ^ 52 then 2 * spacingAt k else spacingAt k := by
  rcases succ_div_mod k with ⟨-, hdiv, hmod⟩ | ⟨-, hdiv, hmod⟩
  · rw [if_neg (by omega), spacingAt, spacingAt, hdiv]
  · rw [spacingAt, spacingAt, hdiv, hmod]
    cases k / 2 ^ 52 with
    | zero => rfl
    | succ e => rw [if_pos ⟨rfl, by omega⟩, Nat.add_sub_cancel, Nat.add_sub_cancel, Nat.pow_succ']

/-- The distance between neighbours is the spacing of the lower one. -/
theorem quartersAt_succ (k : Nat) : quartersAt (k + 1) = quartersAt k + 4 * spacingAt k := by
  have hends := lowerAt_succ k
  have hpos := spacingAt_pos k
  have hspacing := spacingAt_succ k
  rw [lowerAt, upperAt] at hends
  rw [quartersAt, quartersAt]
  split at hends
  · next hnarrow =>
    rw [if_pos hnarrow] at hspacing
    omega
  · next hwide =>
    rw [if_neg hwide] at hspacing
    omega

/-- The interval of a number ends halfway to the next one. -/
theorem two_mul_upperAt (k : Nat) : 2 * upperAt k = quartersAt k + quartersAt (k + 1) := by
  rw [quartersAt_succ, upperAt, quartersAt]
  omega

theorem quartersAt_strictMono : StrictMono quartersAt := by
  refine strictMono_nat_of_lt_succ fun k ↦ ?_
  have hpos := spacingAt_pos k
  rw [quartersAt_succ]
  omega

variable {j k : Nat}

theorem two_mul_upperAt_le (h : k < j) :
    (2 * upperAt k : ℚ) ≤ quartersAt k + quartersAt j := by
  have hnext : quartersAt (k + 1) ≤ quartersAt j := quartersAt_strictMono.monotone h
  have hmiddle := two_mul_upperAt k
  exact_mod_cast (by omega : 2 * upperAt k ≤ quartersAt k + quartersAt j)

theorem le_two_mul_lowerAt (h : j < k) :
    (quartersAt j + quartersAt k : ℚ) ≤ 2 * lowerAt k := by
  obtain ⟨i, rfl⟩ := Nat.exists_eq_succ_of_ne_zero (Nat.ne_zero_of_lt h)
  have hbefore : quartersAt j ≤ quartersAt i :=
    quartersAt_strictMono.monotone (Nat.le_of_lt_succ h)
  have hmiddle := two_mul_upperAt i
  rw [Nat.succ_eq_add_one, lowerAt_succ]
  exact_mod_cast (by omega : quartersAt j + quartersAt (i + 1) ≤ 2 * upperAt i)

/-! ## Ranks -/

theorem rank_lt (x : Binary64) : x.rank < 2 ^ 63 :=
  Nat.mod_lt _ (by decide)

/-- The numbers that are not NaN are the lower ones. -/
theorem isNaN_eq_false_iff {x : Binary64} : x.isNaN = false ↔ x.rank ≤ 2047 * 2 ^ 52 := by
  have hlt := x.rank_lt
  rw [isNaN, exponentField_eq, fractionField_eq, Bool.and_eq_false_iff, beq_eq_false_iff_ne,
    bne_eq_false_iff_eq]
  omega

/-- The finite numbers are those below the infinity. -/
theorem isFinite_iff {x : Binary64} : x.isFinite ↔ x.rank < 2047 * 2 ^ 52 := by
  have hlt := x.rank_lt
  rw [isFinite, exponentField_eq, bne_iff_ne]
  omega

/-- Every lower rank is that of a number. -/
theorem exists_rank_eq (h : k ≤ 2047 * 2 ^ 52) : ∃ y : Binary64, y.isNaN = false ∧ y.rank = k := by
  have hk : k < 2 ^ 63 := by omega
  have hrank : rank ⟨UInt64.ofNat k⟩ = k := by
    rw [rank, UInt64.toNat_ofNat_of_lt' (hk.trans (by decide)), Nat.mod_eq_of_lt hk]
  exact ⟨⟨UInt64.ofNat k⟩, isNaN_eq_false_iff.mpr (hrank.trans_le h), hrank⟩

/-! ## The nearest number -/

/-- The absolute value of a number. The infinity counts as the number behind the largest
finite one. -/
def size (x : Binary64) : ℚ :=
  x.quarters / quartersInOne

/-- The absolute value of the number is what `v` is rounded to. -/
structure IsNearest (x : Binary64) (v : ℚ) : Prop where
  /-- The number is one. -/
  isNaN : x.isNaN = false
  /-- No other number is nearer. -/
  nearest : ∀ y : Binary64, y.isNaN = false → |v - x.size| ≤ |v - y.size|
  /-- Halfway between two numbers the even one is taken. -/
  even : ∀ y : Binary64, y.isNaN = false → y.size ≠ x.size → |v - y.size| = |v - x.size| →
    x.significand % 2 = 0

variable {x y : Binary64} {v : ℚ}

theorem quartersInOne_pos : (0 : ℚ) < quartersInOne := by
  rw [quartersInOne, Nat.one_shiftLeft]
  exact_mod_cast Nat.two_pow_pos 1076

/-- Distances in quarters of the least positive number. -/
theorem abs_sub_size (v : ℚ) (x : Binary64) :
    |v - x.size| * quartersInOne = |v * quartersInOne - quartersAt x.rank| := by
  have hpos := quartersInOne_pos
  rw [← abs_of_pos hpos, ← abs_mul, abs_of_pos hpos, sub_mul, size, div_mul_cancel₀ _ hpos.ne',
    quarters_eq]

theorem abs_sub_size_le_iff : |v - x.size| ≤ |v - y.size| ↔
    |v * quartersInOne - quartersAt x.rank| ≤ |v * quartersInOne - quartersAt y.rank| := by
  rw [← abs_sub_size, ← abs_sub_size, mul_le_mul_iff_of_pos_right quartersInOne_pos]

theorem size_inj : x.size = y.size ↔ x.rank = y.rank := by
  rw [size, size, div_left_inj' quartersInOne_pos.ne', quarters_eq, quarters_eq, Nat.cast_inj,
    quartersAt_strictMono.injective.eq_iff]

/-- The middle between two numbers decides which of them is nearer. -/
theorem abs_sub_le_iff_two_mul_le {a b w : ℚ} (hab : a < b) :
    |w - a| ≤ |w - b| ↔ 2 * w ≤ a + b := by
  rw [← sq_le_sq]
  constructor
  · intro h
    nlinarith
  · intro h
    nlinarith

theorem abs_sub_le_iff_le_two_mul {a b w : ℚ} (hab : a < b) :
    |w - b| ≤ |w - a| ↔ a + b ≤ 2 * w := by
  rw [← sq_le_sq]
  constructor
  · intro h
    nlinarith
  · intro h
    nlinarith

/-- The number with the lower rank is nearer up to the middle. -/
theorem abs_sub_size_le_iff_two_mul_le (h : x.rank < y.rank) :
    |v - x.size| ≤ |v - y.size| ↔
      2 * (v * quartersInOne) ≤ quartersAt x.rank + quartersAt y.rank := by
  rw [abs_sub_size_le_iff]
  exact abs_sub_le_iff_two_mul_le (by exact_mod_cast quartersAt_strictMono h)

/-- The number with the higher rank is nearer from the middle on. -/
theorem abs_sub_size_le_iff_le_two_mul (h : x.rank < y.rank) :
    |v - y.size| ≤ |v - x.size| ↔
      quartersAt x.rank + quartersAt y.rank ≤ 2 * (v * quartersInOne) := by
  rw [abs_sub_size_le_iff]
  exact abs_sub_le_iff_le_two_mul (by exact_mod_cast quartersAt_strictMono h)

/-- Only the middle is equally far from two numbers. -/
theorem two_mul_eq_of_abs_sub_size (hne : y.size ≠ x.size) (h : |v - y.size| = |v - x.size|) :
    2 * (v * quartersInOne) = quartersAt x.rank + quartersAt y.rank := by
  rcases lt_or_gt_of_ne (size_inj.not.mp hne) with hlt | hlt
  · rw [add_comm]
    exact le_antisymm ((abs_sub_size_le_iff_two_mul_le hlt).mp h.le)
      ((abs_sub_size_le_iff_le_two_mul hlt).mp h.ge)
  · exact le_antisymm ((abs_sub_size_le_iff_two_mul_le hlt).mp h.ge)
      ((abs_sub_size_le_iff_le_two_mul hlt).mp h.le)

/-! ## Intervals -/

/-- What belongs to the interval of a number is rounded to it. -/
theorem isNearest_of_holds (hx : x.isNaN = false) (h : x.Holds (v * quartersInOne)) :
    x.IsNearest v := by
  obtain ⟨hlower, hupper⟩ := h.le
  rw [lowerEnd_eq] at hlower
  rw [upperEnd_eq] at hupper
  refine ⟨hx, fun y _ ↦ ?_, fun y _ hne htie ↦ h.even ?_⟩
  · rcases lt_trichotomy x.rank y.rank with hlt | heq | hlt
    · have hmiddle := two_mul_upperAt_le hlt
      exact (abs_sub_size_le_iff_two_mul_le hlt).mpr (by linarith)
    · rw [size_inj.mpr heq]
    · have hmiddle := le_two_mul_lowerAt hlt
      exact (abs_sub_size_le_iff_le_two_mul hlt).mpr (by linarith)
  · -- The middle between two numbers is an end of the interval.
    have htwo := two_mul_eq_of_abs_sub_size hne htie
    rcases lt_or_gt_of_ne (size_inj.not.mp hne) with hlt | hlt
    · have hend := le_two_mul_lowerAt hlt
      exact Or.inl (by rw [lowerEnd_eq]; linarith)
    · have hend := two_mul_upperAt_le hlt
      exact Or.inr (by rw [upperEnd_eq]; linarith)

theorem IsNearest.le_upperEnd (hx : x.isFinite) (h : x.IsNearest v) :
    v * quartersInOne ≤ x.upperEnd ∧ (v * quartersInOne = x.upperEnd → x.significand % 2 = 0) := by
  obtain ⟨y, hy, hrank⟩ := exists_rank_eq (isFinite_iff.mp hx)
  have hlt : x.rank < y.rank := hrank ▸ Nat.lt_succ_self _
  have hmiddle : (2 * upperAt x.rank : ℚ) = quartersAt x.rank + quartersAt y.rank := by
    rw [hrank]
    exact_mod_cast two_mul_upperAt x.rank
  have hside := (abs_sub_size_le_iff_two_mul_le hlt).mp (h.nearest y hy)
  rw [upperEnd_eq]
  refine ⟨by linarith, fun hend ↦ h.even y hy (size_inj.not.mpr hlt.ne') ?_⟩
  exact le_antisymm ((abs_sub_size_le_iff_le_two_mul hlt).mpr (by linarith)) (h.nearest y hy)

theorem IsNearest.lowerEnd_le (hv : 0 ≤ v) (h : x.IsNearest v) :
    x.lowerEnd ≤ v * quartersInOne ∧
      (v * quartersInOne = x.lowerEnd → x.significand % 2 = 0) := by
  rw [lowerEnd_eq, significand_eq, significandAt_mod_two]
  cases hx : x.rank with
  | zero =>
    have hzero : lowerAt 0 = 0 := by decide
    rw [hzero, Nat.cast_zero]
    exact ⟨mul_nonneg hv quartersInOne_pos.le, fun _ ↦ rfl⟩
  | succ k =>
    have hbelow := isNaN_eq_false_iff.mp h.isNaN
    obtain ⟨y, hy, hrank⟩ := exists_rank_eq (k := k) (by omega)
    have hlt : y.rank < x.rank := by omega
    have hmiddle : (2 * lowerAt (k + 1) : ℚ) = quartersAt y.rank + quartersAt x.rank := by
      rw [lowerAt_succ, hrank, hx]
      exact_mod_cast two_mul_upperAt k
    have hside := (abs_sub_size_le_iff_le_two_mul hlt).mp (h.nearest y hy)
    refine ⟨by linarith, fun hend ↦ ?_⟩
    have heven := h.even y hy (size_inj.not.mpr hlt.ne)
      (le_antisymm ((abs_sub_size_le_iff_two_mul_le hlt).mpr (by linarith)) (h.nearest y hy))
    rwa [significand_eq, significandAt_mod_two, hx] at heven

/-- What is rounded to a finite number belongs to its interval. -/
theorem IsNearest.holds (hx : x.isFinite) (hv : 0 ≤ v) (h : x.IsNearest v) :
    x.Holds (v * quartersInOne) := by
  obtain ⟨hupper, hupperEven⟩ := h.le_upperEnd hx
  obtain ⟨hlower, hlowerEven⟩ := h.lowerEnd_le hv
  rw [Holds]
  split
  · exact ⟨hlower, hupper⟩
  · next hodd =>
    exact ⟨lt_of_le_of_ne hlower fun hend ↦ hodd (hlowerEven hend.symm),
      lt_of_le_of_ne hupper fun hend ↦ hodd (hupperEven hend)⟩

theorem IsNearest.not_rank_lt (hx : x.IsNearest v) (hy : y.IsNearest v) : ¬x.rank < y.rank := by
  intro hlt
  have htie : |v - x.size| = |v - y.size| :=
    le_antisymm (hx.nearest y hy.isNaN) (hy.nearest x hx.isNaN)
  have hne : x.size ≠ y.size := size_inj.not.mpr hlt.ne
  -- Both significands are even, so the two numbers do not follow each other.
  have hevenx := hx.even y hy.isNaN hne.symm htie.symm
  have heveny := hy.even x hx.isNaN hne htie
  rw [significand_eq, significandAt_mod_two] at hevenx heveny
  have hnext : x.rank + 1 < y.rank := by omega
  -- The number between them is nearer than both.
  obtain ⟨z, hz, hrank⟩ :=
    exists_rank_eq (hnext.le.trans (isNaN_eq_false_iff.mp hy.isNaN))
  have hxz : x.rank < z.rank := hrank ▸ Nat.lt_succ_self _
  have hmiddle := (abs_sub_size_le_iff_two_mul_le hxz).mp (hx.nearest z hz)
  have htwo := two_mul_eq_of_abs_sub_size hne.symm htie.symm
  have hzy : (quartersAt z.rank : ℚ) < quartersAt y.rank := by
    exact_mod_cast quartersAt_strictMono (hrank.trans_lt hnext)
  linarith

/-- There is never a choice. -/
theorem IsNearest.rank_eq (hx : x.IsNearest v) (hy : y.IsNearest v) : x.rank = y.rank :=
  le_antisymm (not_lt.mp (hy.not_rank_lt hx)) (not_lt.mp (hx.not_rank_lt hy))

end SqlBuilder.Binary64
