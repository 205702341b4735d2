import SqlBuilder.Proofs.Number.Rounding
import Mathlib.Algebra.Order.Field.Power
import Mathlib.Algebra.Order.Floor.Semifield
import Mathlib.Data.Rat.Floor
import Mathlib.Tactic.FieldSimp

/-!
# Shortest decimals

The search for the decimal of a number tries one digit, two digits and so on, and of each grid only
the two neighbours of the number. That is enough: intervals have no gaps, so where any decimal with
so many digits reads back to the number, a neighbour on that grid does. The search always ends,
because an interval is wider than the grid of seventeen digits.
-/

namespace SqlBuilder

/-! ## Digits of decimals -/

namespace Decimal

/-- How many digits the decimal has. -/
def length (d : Decimal) : Nat :=
  (Nat.toDigits 10 d.digits).length

variable {d : Decimal} {n : Nat}

theorem length_pos (d : Decimal) : 0 < d.length :=
  Nat.length_toDigits_pos

theorem length_le_iff (hn : 0 < n) : d.length ≤ n ↔ d.digits < 10 ^ n :=
  Nat.length_toDigits_le_iff (by decide) hn

theorem digits_lt (d : Decimal) : d.digits < 10 ^ d.length :=
  (length_le_iff d.length_pos).mp le_rfl

theorem digits_stripped_le (d : Decimal) (fuel : Nat) : (d.stripped fuel).digits ≤ d.digits := by
  fun_induction Decimal.stripped d fuel with
  | case1 d => rfl
  | case2 d fuel _ ih => exact ih.trans (Nat.div_le_self _ _)
  | case3 d fuel _ => rfl

/-- Of a power of ten one digit is left. -/
theorem digits_stripped_pow (n : Nat) (e : Int) {fuel : Nat} (h : n ≤ fuel) :
    ((Decimal.mk (10 ^ n) e).stripped fuel).digits = 1 := by
  induction n generalizing e fuel with
  | zero =>
    cases fuel with
    | zero => rfl
    | succ fuel => rfl
  | succ n ih =>
    obtain ⟨fuel, rfl⟩ := Nat.exists_eq_succ_of_ne_zero (Nat.ne_zero_of_lt h)
    have hdiv : 10 ^ (n + 1) / 10 = 10 ^ n := Nat.mul_div_cancel _ (by decide)
    have hzero : 10 ^ (n + 1) % 10 = 0 := Nat.mul_mod_left _ _
    rw [Nat.succ_eq_add_one, Decimal.stripped]
    simp only [hzero, hdiv, if_true]
    exact ih _ (Nat.le_of_succ_le_succ h)

/-- The digits below a power of ten, and the power itself, take as many digits as it has zeros. -/
theorem length_stripped_le {fuel : Nat} (hn : 0 < n) (h : d.digits ≤ 10 ^ n) (hfuel : n ≤ fuel) :
    (d.stripped fuel).length ≤ n := by
  rw [length_le_iff hn]
  rcases h.lt_or_eq with hlt | heq
  · exact (d.digits_stripped_le fuel).trans_lt hlt
  · cases d
    obtain rfl := heq
    rw [digits_stripped_pow n _ hfuel]
    exact Nat.one_lt_pow hn.ne' (by decide)

end Decimal

namespace Binary64

variable {x : Binary64} {a b c : ℚ} {e : Int}

/-- A positive number lies between two powers of ten by the number of its digits. -/
theorem pow_length_toDigits {n : ℕ} (hn : 0 < n) :
    10 ^ ((Nat.toDigits 10 n).length - 1) ≤ n ∧ n < 10 ^ (Nat.toDigits 10 n).length := by
  have hpos : 0 < (Nat.toDigits 10 n).length := Nat.length_toDigits_pos
  refine ⟨?_, (Nat.length_toDigits_le_iff (by decide) hpos).mp le_rfl⟩
  rcases Nat.eq_zero_or_pos ((Nat.toDigits 10 n).length - 1) with hsingle | hseveral
  · rw [hsingle]
    exact hn
  · by_contra hlt
    have hshort := (Nat.length_toDigits_le_iff (by decide) hseveral).mpr (not_le.mp hlt)
    omega

/-! ## Intervals and grids -/

theorem Holds.convex (ha : x.Holds a) (hb : x.Holds b) (hac : a ≤ c) (hcb : c ≤ b) :
    x.Holds c := by
  rw [Holds] at ha hb ⊢
  split
  · next heven =>
    rw [if_pos heven] at ha hb
    exact ⟨ha.1.trans hac, hcb.trans hb.2⟩
  · next hodd =>
    rw [if_neg hodd] at ha hb
    exact ⟨ha.1.trans_le hac, hcb.trans_lt hb.2⟩

theorem size_mul_quartersInOne (x : Binary64) : x.size * quartersInOne = x.quarters :=
  div_mul_cancel₀ _ quartersInOne_pos.ne'

theorem quarters_mono (h : a ≤ b) : a * quartersInOne ≤ b * quartersInOne :=
  mul_le_mul_of_nonneg_right h quartersInOne_pos.le

theorem holds_size (hx : x.magnitude ≠ 0) : x.Holds (x.size * quartersInOne) := by
  rw [size_mul_quartersInOne]
  exact holds_quarters hx

/-- A quotient without its rest. -/
theorem cast_div_bounds (m n : ℕ) :
    ((m / n : ℕ) : ℚ) ≤ m / n ∧ (m / n : ℚ) < (m / n : ℕ) + 1 := by
  rw [← Nat.floor_div_eq_div (K := ℚ)]
  exact ⟨Nat.floor_le (by positivity), Nat.lt_floor_add_one _⟩

/-- A number lies between its neighbours on a grid. -/
theorem floorOnGrid_bounds (x : Binary64) (e : Int) :
    x.floorOnGrid e * (10 : ℚ) ^ e ≤ x.size ∧ x.size < (x.floorOnGrid e + 1) * (10 : ℚ) ^ e := by
  have hten : (0 : ℚ) < 10 ^ e := by positivity
  have hquotient : ((x.quarters * Nat.pow 10 (-e).toNat : ℕ) : ℚ)
      / (quartersInOne * Nat.pow 10 e.toNat : ℕ) = x.size / 10 ^ e := by
    have hone := quartersInOne_pos.ne'
    have hshift : (10 : ℚ) ^ (-e).toNat ≠ 0 := by positivity
    rw [Nat.pow_eq, Nat.pow_eq, Nat.cast_mul, Nat.cast_mul, Nat.cast_pow, Nat.cast_pow,
      Nat.cast_ofNat, ← zpow_mul_pow_toNat e, size]
    field_simp
  have hbounds := cast_div_bounds (x.quarters * Nat.pow 10 (-e).toNat)
    (quartersInOne * Nat.pow 10 e.toNat)
  rw [hquotient, le_div_iff₀ hten, div_lt_iff₀ hten] at hbounds
  exact hbounds

/-- Where some point of a grid reads back to the number, a neighbour on the grid does. -/
theorem readsBack_neighbour (hx : x.magnitude ≠ 0) {n : ℕ}
    (h : x.Holds (n * 10 ^ e * quartersInOne)) :
    x.readsBack ⟨x.floorOnGrid e, e⟩ ∨ x.readsBack ⟨x.floorOnGrid e + 1, e⟩ := by
  have hten : (0 : ℚ) < 10 ^ e := by positivity
  have hself := holds_size hx
  obtain ⟨hbelow, habove⟩ := x.floorOnGrid_bounds e
  rw [readsBack_iff, readsBack_iff, Decimal.value, Decimal.value, Nat.cast_add, Nat.cast_one]
  rcases le_or_gt n (x.floorOnGrid e) with hle | hgt
  · have hpoint : (n : ℚ) * 10 ^ e ≤ x.floorOnGrid e * 10 ^ e :=
      mul_le_mul_of_nonneg_right (by exact_mod_cast hle) hten.le
    exact Or.inl (h.convex hself (quarters_mono hpoint) (quarters_mono hbelow))
  · have hpoint : ((x.floorOnGrid e : ℚ) + 1) * 10 ^ e ≤ n * 10 ^ e :=
      mul_le_mul_of_nonneg_right (by exact_mod_cast hgt) hten.le
    exact Or.inr (hself.convex h (quarters_mono habove.le) (quarters_mono hpoint))

/-- The search finds a neighbour that reads back. -/
theorem exists_onGrid? (hx : x.magnitude ≠ 0) {n : ℕ}
    (h : x.Holds (n * 10 ^ e * quartersInOne)) : ∃ d, x.onGrid? e = some d := by
  have hneighbour := readsBack_neighbour hx h
  rw [onGrid?]
  split
  · exact ⟨_, rfl⟩
  · exact ⟨_, rfl⟩
  · exact ⟨_, rfl⟩
  · next hlow hhigh =>
    rw [hlow, hhigh] at hneighbour
    simp at hneighbour

/-- What the search finds is a neighbour. -/
theorem digits_le_of_onGrid? {d : Decimal} (h : x.onGrid? e = some d) :
    d.digits ≤ x.floorOnGrid e + 1 := by
  rw [onGrid?] at h
  split at h
  · obtain rfl := Option.some.inj h
    split
    · exact le_rfl
    · exact Nat.le_succ _
  · exact Option.some.inj h ▸ Nat.le_succ _
  · exact Option.some.inj h ▸ le_rfl
  · simp at h

/-! ## The scale -/

/-- The digits of the whole part tell the size of a number, once it is scaled to have one. -/
theorem size_bounds (hx : x.magnitude ≠ 0) {n : ℕ} (hn : quartersInOne ≤ 10 ^ n) {length : ℕ}
    (hlength : length = (Nat.toDigits 10 (x.quarters * Nat.pow 10 n / quartersInOne)).length) :
    (10 : ℚ) ^ (length - n - 1 : ℤ) ≤ x.size ∧ x.size < 10 ^ (length - n : ℤ) := by
  rw [Nat.pow_eq] at hlength
  have hten : (0 : ℚ) < 10 ^ n := by positivity
  have hne : (10 : ℚ) ≠ 0 := by norm_num
  have hone : 0 < quartersInOne := by exact_mod_cast quartersInOne_pos
  have hquotient : ((x.quarters * 10 ^ n : ℕ) : ℚ) / quartersInOne = x.size * 10 ^ n := by
    rw [Nat.cast_mul, Nat.cast_pow, Nat.cast_ofNat, size, mul_div_right_comm]
  have hquarters : 0 < x.quarters := Nat.mul_pos (by decide) (Nat.pos_of_ne_zero hx)
  have hpos : 0 < x.quarters * 10 ^ n / quartersInOne :=
    Nat.div_pos (hn.trans (Nat.le_mul_of_pos_left _ hquarters)) hone
  have hbounds := cast_div_bounds (x.quarters * 10 ^ n) quartersInOne
  generalize x.quarters * 10 ^ n / quartersInOne = whole at hlength hpos hbounds
  rw [hquotient] at hbounds
  obtain ⟨hlower, hupper⟩ := pow_length_toDigits hpos
  rw [← hlength] at hlower hupper
  have hdigits : 0 < length := hlength ▸ Nat.length_toDigits_pos
  have hlower' : (10 : ℚ) ^ (length - 1) ≤ whole := by exact_mod_cast hlower
  have hupper' : (whole : ℚ) + 1 ≤ 10 ^ length := by exact_mod_cast hupper
  constructor
  · have hexponent : (length - n - 1 : ℤ) = (length - 1 : ℕ) - (n : ℕ) := by omega
    rw [hexponent, zpow_sub₀ hne, zpow_natCast, zpow_natCast, div_le_iff₀ hten]
    exact hlower'.trans hbounds.1
  · rw [zpow_sub₀ hne, zpow_natCast, zpow_natCast, lt_div_iff₀ hten]
    exact hbounds.2.trans_le hupper'

theorem shiftLeft_le_ten_pow {m n : ℕ} (h : m ≤ 3 * n) : 1 <<< m ≤ 10 ^ n :=
  calc 1 <<< m = 2 ^ m := Nat.one_shiftLeft m
    _ ≤ 2 ^ (3 * n) := Nat.pow_le_pow_right (by decide) h
    _ = (2 ^ 3) ^ n := Nat.pow_mul 2 3 n
    _ ≤ 10 ^ n := Nat.pow_le_pow_left (by decide) n

/-- The scale is the least power of ten above the number. -/
theorem scale_bounds (hx : x.magnitude ≠ 0) :
    (10 : ℚ) ^ (x.scale - 1) ≤ x.size ∧ x.size < 10 ^ x.scale := by
  have hone : quartersInOne ≤ 10 ^ 400 := @shiftLeft_le_ten_pow 1076 400 (by decide)
  have hcast : (400 : Int) = (400 : ℕ) := rfl
  rw [scale, hcast]
  -- The power is never computed.
  generalize 400 = n at hone ⊢
  exact size_bounds hx hone rfl

theorem floorOnGrid_lt (hx : x.magnitude ≠ 0) (n : ℕ) : x.floorOnGrid (x.scale - n) < 10 ^ n := by
  have hten : (0 : ℚ) < 10 ^ (x.scale - n) := by positivity
  have hpower : (10 : ℚ) ^ x.scale = 10 ^ n * 10 ^ (x.scale - n) := by
    rw [← zpow_natCast, ← zpow_add₀ (by norm_num)]
    congr 1
    omega
  have hlt : (x.floorOnGrid (x.scale - n) : ℚ) * 10 ^ (x.scale - n)
      < 10 ^ n * 10 ^ (x.scale - n) := by
    rw [← hpower]
    exact (x.floorOnGrid_bounds _).1.trans_lt (scale_bounds hx).2
  exact_mod_cast lt_of_mul_lt_mul_right hlt hten.le

/-- Where a decimal reads back to the number, so does a point of the grid with as many digits. -/
theorem exists_holds_grid (hx : x.magnitude ≠ 0) {d : Decimal}
    (h : x.Holds (d.value * quartersInOne)) :
    ∃ n : ℕ, x.Holds (n * 10 ^ (x.scale - d.length) * quartersInOne) := by
  have hne : (10 : ℚ) ≠ 0 := by norm_num
  rcases lt_or_ge d.value (10 ^ (x.scale - 1)) with hbelow | habove
  · -- The power of ten between the decimal and the number is on the grid.
    refine ⟨10 ^ (d.length - 1), ?_⟩
    have hpower : ((10 ^ (d.length - 1) : ℕ) : ℚ) * 10 ^ (x.scale - d.length)
        = 10 ^ (x.scale - 1) := by
      have hpos := d.length_pos
      rw [Nat.cast_pow, Nat.cast_ofNat, ← zpow_natCast, ← zpow_add₀ hne]
      congr 1
      omega
    rw [hpower]
    exact h.convex (holds_size hx) (quarters_mono hbelow.le) (quarters_mono (scale_bounds hx).1)
  · -- The decimal itself is on the grid.
    have hdigits : d.value < 10 ^ (d.length + d.exponent) := by
      rw [zpow_add₀ hne, zpow_natCast, Decimal.value]
      have hten : (0 : ℚ) < 10 ^ d.exponent := by positivity
      exact mul_lt_mul_of_pos_right (by exact_mod_cast d.digits_lt) hten
    have hexponent : x.scale - 1 < d.length + d.exponent :=
      (zpow_lt_zpow_iff_right₀ (by norm_num)).mp (habove.trans_lt hdigits)
    refine ⟨d.digits * 10 ^ (d.exponent - (x.scale - d.length)).toNat, ?_⟩
    have hpoint : ((d.digits * 10 ^ (d.exponent - (x.scale - d.length)).toNat : ℕ) : ℚ)
        * 10 ^ (x.scale - d.length) = d.value := by
      rw [Nat.cast_mul, Nat.cast_pow, Nat.cast_ofNat, mul_assoc, ← zpow_natCast, ← zpow_add₀ hne,
        Decimal.value]
      congr 2
      omega
    rw [hpoint]
    exact h

/-- The interval of a number is not narrow compared to the number. -/
theorem quarters_lt_width (hx : x.magnitude ≠ 0) :
    x.quarters + 10 ^ 16 * x.lowerEnd < 10 ^ 16 * x.upperEnd := by
  have hspacing : 0 < x.spacing := x.spacing_eq ▸ spacingAt_pos _
  have hmagnitude : 0 < x.magnitude := Nat.pos_of_ne_zero hx
  have hfraction : x.fractionField < 2 ^ 52 := by
    rw [fractionField_eq]
    exact Nat.mod_lt _ (by decide)
  rw [lowerEnd, upperEnd, quarters]
  split
  · next hnarrow =>
    rw [isNarrowBelow, Bool.and_eq_true, beq_iff_eq, decide_eq_true_eq] at hnarrow
    have hsignificand : x.significand = 2 ^ 52 := by
      rw [significand, if_neg (by omega), hnarrow.1, Nat.one_shiftLeft, Nat.add_zero]
    have hproduct : x.magnitude = 2 ^ 52 * x.spacing := by rw [magnitude, hsignificand]
    omega
  · have hsignificand : x.significand ≤ 2 ^ 53 - 1 := by
      rw [significand, Nat.one_shiftLeft]
      split <;> omega
    have hproduct : x.magnitude ≤ (2 ^ 53 - 1) * x.spacing :=
      Nat.mul_le_mul_right _ hsignificand
    omega

/-- The interval of a number is wider than the grid of seventeen digits. -/
theorem exists_holds_seventeen (hx : x.magnitude ≠ 0) :
    ∃ n : ℕ, x.Holds (n * 10 ^ (x.scale - 17) * quartersInOne) := by
  by_contra! hnone
  obtain ⟨hbelow, habove⟩ := x.floorOnGrid_bounds (x.scale - 17)
  have hinside := quarters_mem_interval hx
  have hlower : (x.lowerEnd : ℚ) < x.quarters := by exact_mod_cast hinside.1
  have hupper : (x.quarters : ℚ) < x.upperEnd := by exact_mod_cast hinside.2
  have hwidth : (x.quarters + 10 ^ 16 * x.lowerEnd : ℚ) < 10 ^ 16 * x.upperEnd := by
    exact_mod_cast quarters_lt_width hx
  have hgrid : (10 : ℚ) ^ (x.scale - 17) * 10 ^ 16 ≤ x.size := by
    rw [← zpow_natCast, ← zpow_add₀ (by norm_num)]
    refine le_of_eq_of_le ?_ (scale_bounds hx).1
    congr 1
    omega
  have hlow := hnone (x.floorOnGrid (x.scale - 17))
  have hhigh := hnone (x.floorOnGrid (x.scale - 17) + 1)
  rw [Nat.cast_add, Nat.cast_one] at hhigh
  generalize (10 : ℚ) ^ (x.scale - 17) = step at *
  generalize (x.floorOnGrid (x.scale - 17) : ℚ) = low at *
  have hself := x.size_mul_quartersInOne
  replace hbelow := quarters_mono hbelow
  replace habove := mul_lt_mul_of_pos_right habove quartersInOne_pos
  replace hgrid := quarters_mono hgrid
  rw [hself] at hbelow habove hgrid
  -- So both neighbours lie outside, and the grid is as wide as the interval.
  have hlowOut : low * step * quartersInOne ≤ x.lowerEnd := by
    by_contra! hin
    exact hlow (holds_of_lt hin (hbelow.trans_lt hupper))
  have hhighOut : x.upperEnd ≤ (low + 1) * step * quartersInOne := by
    by_contra! hin
    exact hhigh (holds_of_lt (hlower.trans habove) hin)
  linarith

/-! ## The search -/

/-- The first success of a search that counts upwards. -/
theorem exists_of_findSome?_range {β : Type} {f : Nat → Option β} {n : Nat} {b : β}
    (h : (List.range n).findSome? f = some b) : ∃ k < n, f k = some b ∧ ∀ j < k, f j = none := by
  induction n with
  | zero => simp at h
  | succ n ih =>
    rw [List.range_succ, List.findSome?_append] at h
    cases hbefore : (List.range n).findSome? f with
    | some b' =>
      rw [hbefore, Option.some_or] at h
      obtain rfl := Option.some.inj h
      obtain ⟨k, hk, hfound, hfirst⟩ := ih hbefore
      exact ⟨k, Nat.lt_succ_of_lt hk, hfound, hfirst⟩
    | none =>
      rw [hbefore, Option.none_or, List.findSome?_singleton] at h
      refine ⟨n, Nat.lt_succ_self n, h, fun j hj ↦ ?_⟩
      exact List.findSome?_eq_none_iff.mp hbefore j (List.mem_range.mpr hj)

/-- The shortest decimal comes from the first grid on which there is one. -/
theorem shortest_spec (hx : x.magnitude ≠ 0) : ∃ n < 17, x.shortest.length ≤ n + 1 ∧
    ∀ k < n, x.onGrid? (x.scale - (k + 1)) = none := by
  rw [shortest]
  split
  · next d hd =>
    obtain ⟨n, hn, hfound, hfirst⟩ := exists_of_findSome?_range hd
    refine ⟨n, hn, Decimal.length_stripped_le n.succ_pos ?_ hn, hfirst⟩
    have hlt := floorOnGrid_lt hx (n + 1)
    rw [Nat.cast_add, Nat.cast_one] at hlt
    exact (digits_le_of_onGrid? hfound).trans hlt
  · next hnone =>
    obtain ⟨n, hn⟩ := exists_holds_seventeen hx
    obtain ⟨d, hd⟩ := exists_onGrid? hx hn
    have hlast := List.findSome?_eq_none_iff.mp hnone 16 (List.mem_range.mpr (by decide))
    norm_num at hlast
    simp [hlast] at hd

/-- No decimal that reads back to the number has fewer digits than the one that is found. -/
theorem length_shortest_le (hx : x.magnitude ≠ 0) {d : Decimal}
    (h : x.Holds (d.value * quartersInOne)) : x.shortest.length ≤ d.length := by
  obtain ⟨n, -, hlength, hfirst⟩ := shortest_spec hx
  by_contra hshorter
  obtain ⟨m, hm⟩ := Nat.exists_eq_succ_of_ne_zero d.length_pos.ne'
  obtain ⟨k, hk⟩ := exists_holds_grid hx h
  obtain ⟨d', hd'⟩ := exists_onGrid? hx hk
  have hnone := hfirst m (by omega)
  rw [hm, Nat.succ_eq_add_one, Nat.cast_add, Nat.cast_one, hnone] at hd'
  simp at hd'

end Binary64

end SqlBuilder
