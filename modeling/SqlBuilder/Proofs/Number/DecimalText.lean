import SqlBuilder.Proofs.Number.Interval
import SqlBuilder.Proofs.Number.Numeral
import Mathlib.Data.List.TakeWhile

/-!
# Reading floating-point numbers back

The text of a decimal says where its point stands in two ways: by the point among the digits and by
the exponent behind the `e`. A reader that puts the two together gives the number back that the
decimal stands for. What the text of a number is read as belongs to the interval of the number.
-/

namespace SqlBuilder

namespace Decimal

/-! ## A reader -/

/-- The whole number that the digits are. -/
def wholeOf (cs : List Char) : ℕ :=
  Nat.ofDigitChars 10 cs 0

/-- The exponent behind the `e`, if there is one. -/
def exponentOf (cs : List Char) : Int :=
  match cs.dropWhile (· != 'e') with
  | [] => 0
  | _ :: e => (String.ofList e).toInt?.getD 0

/-- The number that a text without sign is read as. -/
def read (cs : List Char) : ℚ :=
  let mantissa := cs.takeWhile (· != 'e')
  let places := (mantissa.dropWhile (· != '.')).length - 1
  wholeOf (mantissa.filter (· != '.')) * 10 ^ (exponentOf cs - (places : ℕ))

/-- The text goes on with an exponent or not at all. -/
def IsExponent (cs : List Char) (e : Int) : Prop :=
  (cs = [] ∧ e = 0) ∨ cs = 'e' :: (toString e).toList

variable {ds ds' cs : List Char} {e : Int}

theorem bne_of_isDigit (h : ∀ c ∈ ds, c.isDigit) {a : Char} (ha : a.isDigit = false) :
    ∀ c ∈ ds, (c != a) = true := by
  intro c hc
  simpa using ne_of_class (h c hc) ha

/-- A mantissa ends where the exponent begins. -/
theorem split_exponent (hds : ∀ c ∈ ds, (c != 'e') = true) (hcs : IsExponent cs e) :
    (ds ++ cs).takeWhile (· != 'e') = ds ∧ exponentOf (ds ++ cs) = e := by
  rw [exponentOf, List.dropWhile_append_of_pos hds, List.takeWhile_append_of_pos hds]
  rcases hcs with ⟨rfl, rfl⟩ | rfl
  · simp
  · simp

/-- Digits on both sides of a point. -/
theorem read_point (h : ∀ c ∈ ds, c.isDigit) (h' : ∀ c ∈ ds', c.isDigit) (hcs : IsExponent cs e) :
    read (ds ++ '.' :: ds' ++ cs) = wholeOf (ds ++ ds') * 10 ^ (e - ds'.length) := by
  have hmantissa : ∀ c ∈ ds ++ '.' :: ds', (c != 'e') = true := by
    intro c hc
    rcases List.mem_append.mp hc with hc | hc
    · exact bne_of_isDigit h (by decide) c hc
    · rcases List.mem_cons.mp hc with rfl | hc
      · decide
      · exact bne_of_isDigit h' (by decide) c hc
  have hleft := bne_of_isDigit h (show '.'.isDigit = false by decide)
  have hright := bne_of_isDigit h' (show '.'.isDigit = false by decide)
  have hfilter : (ds ++ '.' :: ds').filter (· != '.') = ds ++ ds' := by
    rw [List.filter_append, List.filter_cons_of_neg (by decide), List.filter_eq_self.mpr hleft,
      List.filter_eq_self.mpr hright]
  have hplaces : ((ds ++ '.' :: ds').dropWhile (· != '.')).length - 1 = ds'.length := by
    rw [List.dropWhile_append_of_pos hleft]
    simp
  obtain ⟨htake, hexponent⟩ := split_exponent hmantissa hcs
  simp only [read, htake, hexponent, hfilter, hplaces]

/-- Digits without a point. -/
theorem read_whole (h : ∀ c ∈ ds, c.isDigit) (hcs : IsExponent cs e) :
    read (ds ++ cs) = wholeOf ds * 10 ^ e := by
  have hpoint := bne_of_isDigit h (show '.'.isDigit = false by decide)
  have hplaces : (ds.dropWhile (· != '.')).length - 1 = 0 := by
    rw [List.dropWhile_eq_nil_iff.mpr hpoint]
    rfl
  obtain ⟨htake, hexponent⟩ := split_exponent (bne_of_isDigit h (by decide)) hcs
  simp only [read, htake, hexponent, List.filter_eq_self.mpr hpoint, hplaces]
  simp

/-! ## Reading decimals -/

theorem wholeOf_append (ds ds' : List Char) :
    wholeOf (ds ++ ds') = Nat.ofDigitChars 10 ds' (wholeOf ds) := by
  rw [wholeOf, Nat.ofDigitChars_append]
  rfl

theorem wholeOf_zeros (n : ℕ) (ds : List Char) :
    wholeOf (List.replicate n '0' ++ ds) = wholeOf ds := by
  rw [wholeOf_append, wholeOf, Nat.ofDigitChars_replicate_zero, Nat.mul_zero]
  rfl

theorem wholeOf_append_zeros (n : ℕ) (ds : List Char) :
    wholeOf (ds ++ List.replicate n '0') = 10 ^ n * wholeOf ds := by
  rw [wholeOf_append, Nat.ofDigitChars_replicate_zero]

theorem isDigit_zeros {n : ℕ} : ∀ c ∈ List.replicate n '0', c.isDigit := fun _ hc ↦
  List.eq_of_mem_replicate hc ▸ by decide

/-- The digits in their places are read as what they stand for. -/
theorem read_positional (h : ∀ c ∈ ds, c.isDigit) (point : Int) :
    read (positional ds point) = wholeOf ds * 10 ^ (point - ds.length) := by
  have hnone : IsExponent [] 0 := Or.inl ⟨rfl, rfl⟩
  rw [positional]
  split
  · next hpoint =>
    -- The point stands in front of all digits, and zeros between the two.
    have hzeros : ∀ c ∈ List.replicate (-point).toNat '0' ++ ds, c.isDigit := fun c hc ↦
      (List.mem_append.mp hc).elim (isDigit_zeros c) (h c)
    have hread := @read_point (List.replicate 1 '0') _ [] 0 isDigit_zeros hzeros hnone
    have hplaces : 0 - ((List.replicate (-point).toNat '0' ++ ds).length : Int)
        = point - ds.length := by
      rw [List.length_append, List.length_replicate]
      omega
    rw [List.append_nil, wholeOf_zeros, wholeOf_zeros, hplaces] at hread
    exact hread
  · split
    · next hpoint hinside =>
      -- The point stands between two digits.
      have htake : ∀ c ∈ ds.take point.toNat, c.isDigit := fun c hc ↦ h c (List.mem_of_mem_take hc)
      have hdrop : ∀ c ∈ ds.drop point.toNat, c.isDigit := fun c hc ↦ h c (List.mem_of_mem_drop hc)
      have hread := read_point htake hdrop hnone
      have hplaces : 0 - ((ds.drop point.toNat).length : Int) = point - ds.length := by
        rw [List.length_drop]
        omega
      rw [List.append_nil, List.take_append_drop, hplaces] at hread
      exact hread
    · next hpoint hbehind =>
      -- Zeros fill the places up to the point.
      have hzeros : ∀ c ∈ ds ++ List.replicate (point.toNat - ds.length) '0', c.isDigit :=
        fun c hc ↦
        (List.mem_append.mp hc).elim (h c) (isDigit_zeros c)
      have hread := @read_point _ (List.replicate 1 '0') [] 0 hzeros isDigit_zeros hnone
      have hplaces : point - ds.length = (point.toNat - ds.length : ℕ) := by omega
      rw [List.append_nil, wholeOf_append_zeros, wholeOf_append_zeros] at hread
      rw [← List.append_assoc]
      refine hread.trans ?_
      rw [hplaces, zpow_natCast, Nat.cast_mul, Nat.cast_mul, Nat.cast_pow, Nat.cast_pow,
        Nat.cast_ofNat, List.length_replicate, Nat.cast_one, zero_sub, zpow_neg, zpow_one]
      ring

/-- One digit in front of the point and an exponent are read as what they stand for. -/
theorem read_scientific (hne : ds ≠ []) (h : ∀ c ∈ ds, c.isDigit) (point : Int) :
    read (scientific ds point) = wholeOf ds * 10 ^ (point - ds.length) := by
  have hexponent : IsExponent ('e' :: (toString (point - 1)).toList) (point - 1) := Or.inr rfl
  obtain ⟨d, ds, rfl⟩ := List.exists_cons_of_ne_nil hne
  -- A single digit has no point behind it.
  cases ds with
  | nil => exact read_whole h hexponent
  | cons d' ds =>
    have hd : ∀ c ∈ [d], c.isDigit := fun c hc ↦ h c (List.mem_singleton.mp hc ▸ List.mem_cons_self)
    have hds : ∀ c ∈ d' :: ds, c.isDigit := fun c hc ↦ h c (List.mem_cons_of_mem d hc)
    have hread := read_point hd hds hexponent
    have hplaces :
        point - 1 - ((d' :: ds).length : Int) = point - ((d :: d' :: ds).length : Int) := by
      simp only [List.length_cons]
      omega
    rw [hplaces] at hread
    exact hread

/-- A decimal is read as what it stands for. -/
theorem read_text (d : Decimal) : read d.text = d.value := by
  have hdigits : ∀ c ∈ Nat.toDigits 10 d.digits, c.isDigit := fun _ ↦ isDigit_of_mem_toDigits
  have hwhole : wholeOf (Nat.toDigits 10 d.digits) = d.digits := Nat.ofDigitChars_ten_toDigits
  have hexponent : ((Nat.toDigits 10 d.digits).length : Int) + d.exponent
      - (Nat.toDigits 10 d.digits).length = d.exponent := by omega
  rw [text, value]
  split
  · rw [read_positional hdigits, hwhole, hexponent]
  · rw [read_scientific Nat.toDigits_ne_nil hdigits, hwhole, hexponent]

end Decimal

/-! ## Texts of numbers -/

namespace Binary64

/-- What a finite number without its sign is read as belongs to its interval. -/
theorem holds_unsignedText (x : Binary64) :
    x.Holds (Decimal.read x.unsignedText * quartersInOne) := by
  rw [unsignedText]
  split
  · next hzero =>
    -- Zero has no shortest decimal; it is the beginning of its own interval.
    have hread : Decimal.read ['0', '.', '0'] = 0 := by
      have hpoint := @Decimal.read_point ['0'] ['0'] [] 0 (by simp) (by simp) (Or.inl ⟨rfl, rfl⟩)
      have hwhole : Decimal.wholeOf (['0'] ++ ['0']) = 0 := by decide
      rw [hwhole, Nat.cast_zero, zero_mul] at hpoint
      exact hpoint
    have hsignificand : x.significand = 0 :=
      (Nat.mul_eq_zero.mp hzero).resolve_right (x.spacing_eq ▸ (spacingAt_pos _).ne')
    have hlower : x.lowerEnd = 0 := by
      rw [lowerEnd, quarters, hzero]
      omega
    rw [hread, zero_mul, Holds, hsignificand, if_pos rfl, hlower, Nat.cast_zero]
    exact ⟨le_refl 0, Nat.cast_nonneg _⟩
  · next hne =>
    rw [Decimal.read_text]
    exact holds_shortest hne

end Binary64

end SqlBuilder
