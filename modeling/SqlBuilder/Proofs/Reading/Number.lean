import SqlBuilder.Proofs.Number.DecimalText

/-!
# Reading numbers

A number is read as SQL reads it. A whole number is made of digits, with a minus in front of them or
not. A floating-point number has a point between digits or an exponent behind an `e`, or both, and
that is how it is told from a whole number. Every text is read as one number at most.
-/

namespace SqlBuilder.Reading

open Decimal (wholeOf IsExponent)

/-! ## The syntax of numbers -/

/-- A row of digits that is not empty. -/
structure IsDigits (cs : List Char) : Prop where
  ne_nil : cs ≠ []
  isDigit : ∀ c ∈ cs, c.isDigit

/-- A text with a minus in front of it, or without one. -/
def signed (negative : Bool) (cs : List Char) : List Char :=
  if negative then '-' :: cs else cs

/-- The text is read as the whole number. -/
def IsInteger (cs : List Char) (n : Int) : Prop :=
  ∃ negative ds, IsDigits ds ∧ cs = signed negative ds ∧
    n = if negative then -(wholeOf ds : Int) else wholeOf ds

/-- The text has a point between digits and is read as the number. -/
def IsPointed (cs : List Char) (m : ℚ) : Prop :=
  ∃ ds ds', IsDigits ds ∧ IsDigits ds' ∧ cs = ds ++ '.' :: ds' ∧
    m = wholeOf (ds ++ ds') / 10 ^ ds'.length

/-- The text can stand in front of an exponent and is read as the number. -/
def IsMantissa (cs : List Char) (m : ℚ) : Prop :=
  (IsDigits cs ∧ m = wholeOf cs) ∨ IsPointed cs m

/-- The text has an exponent and is read as the number. -/
def IsScaled (cs : List Char) (v : ℚ) : Prop :=
  ∃ ms es m e, IsMantissa ms m ∧ IsInteger es e ∧ cs = ms ++ 'e' :: es ∧ v = m * 10 ^ e

/-- The text has a point or an exponent, and no sign, and is read as the number. -/
def IsReal (cs : List Char) (v : ℚ) : Prop :=
  IsPointed cs v ∨ IsScaled cs v

variable {cs cs' ds : List Char} {m m' v v' : ℚ} {n n' : Int}

/-! ## What the texts are made of -/

theorem IsDigits.notMem (h : IsDigits cs) {c : Char} (hc : c.isDigit = false) : c ∉ cs :=
  fun hmem ↦ ne_of_class (h.isDigit c hmem) hc rfl

theorem IsDigits.head (h : IsDigits cs) : ∃ c, cs.head? = some c ∧ c.isDigit := by
  obtain ⟨c, cs, rfl⟩ := List.exists_cons_of_ne_nil h.ne_nil
  exact ⟨c, rfl, h.isDigit c List.mem_cons_self⟩

theorem head_signed (h : ∃ c, cs.head? = some c ∧ c.isDigit) (negative : Bool) :
    ∃ c, (signed negative cs).head? = some c ∧ (c.isDigit ∨ c = '-') := by
  obtain ⟨c, hhead, hc⟩ := h
  cases negative with
  | false => exact ⟨c, hhead, Or.inl hc⟩
  | true => exact ⟨'-', rfl, Or.inr rfl⟩

theorem mem_signed {c : Char} (h : c ∈ cs) (negative : Bool) : c ∈ signed negative cs := by
  cases negative with
  | false => exact h
  | true => exact List.mem_cons_of_mem _ h

/-- What begins with a digit does so whatever stands behind it. -/
theorem head_append (h : ∃ c, cs.head? = some c ∧ c.isDigit) (r : List Char) :
    ∃ c, (cs ++ r).head? = some c ∧ c.isDigit := by
  obtain ⟨c, hhead, hc⟩ := h
  exact ⟨c, by rw [List.head?_append, hhead, Option.some_or], hc⟩

theorem IsPointed.head (h : IsPointed cs m) : ∃ c, cs.head? = some c ∧ c.isDigit := by
  obtain ⟨ds, ds', hds, -, rfl, -⟩ := h
  exact head_append hds.head _

theorem IsMantissa.head (h : IsMantissa cs m) : ∃ c, cs.head? = some c ∧ c.isDigit := by
  rcases h with ⟨hcs, -⟩ | hcs
  · exact hcs.head
  · exact hcs.head

theorem IsReal.head (h : IsReal cs v) : ∃ c, cs.head? = some c ∧ c.isDigit := by
  rcases h with hcs | ⟨ms, es, m, e, hms, -, rfl, -⟩
  · exact hcs.head
  · exact head_append hms.head _

theorem IsPointed.point_mem (h : IsPointed cs m) : '.' ∈ cs := by
  obtain ⟨ds, ds', -, -, rfl, -⟩ := h
  exact List.mem_append_right ds List.mem_cons_self

theorem IsPointed.e_notMem (h : IsPointed cs m) : 'e' ∉ cs := by
  obtain ⟨ds, ds', hds, hds', rfl, -⟩ := h
  simp [hds.notMem (show 'e'.isDigit = false by decide),
    hds'.notMem (show 'e'.isDigit = false by decide)]

theorem IsMantissa.e_notMem (h : IsMantissa cs m) : 'e' ∉ cs := by
  rcases h with ⟨hcs, -⟩ | hcs
  · exact hcs.notMem (by decide)
  · exact hcs.e_notMem

/-- A whole number has neither a point nor an exponent. -/
theorem IsInteger.notMem (h : IsInteger cs n) {c : Char} (hc : c = '.' ∨ c = 'e') : c ∉ cs := by
  obtain ⟨negative, ds, hds, rfl, -⟩ := h
  have hdigits : c ∉ ds := hds.notMem (by rcases hc with rfl | rfl <;> decide)
  rw [signed]
  split
  · have hdash : c ≠ '-' := by rcases hc with rfl | rfl <;> decide
    exact List.not_mem_cons_of_ne_of_not_mem hdash hdigits
  · exact hdigits

/-- A floating-point number has a point or an exponent. -/
theorem IsReal.marked (h : IsReal cs v) : '.' ∈ cs ∨ 'e' ∈ cs := by
  rcases h with hcs | ⟨ms, es, m, e, -, -, rfl, -⟩
  · exact Or.inl hcs.point_mem
  · exact Or.inr (List.mem_append_right ms List.mem_cons_self)

/-! ## One number at most -/

/-- The sign and what stands behind it can be told apart. -/
theorem signed_inj {b b' : Bool} (h : ∃ c, cs.head? = some c ∧ c.isDigit)
    (h' : ∃ c, cs'.head? = some c ∧ c.isDigit) (heq : signed b cs = signed b' cs') :
    b = b' ∧ cs = cs' := by
  -- Without a sign a numeral begins with a digit.
  have hdash {ds : List Char} (hds : ∃ c, ds.head? = some c ∧ c.isDigit) (ds' : List Char) :
      ds ≠ '-' :: ds' := by
    rintro rfl
    obtain ⟨c, hhead, hdigit⟩ := hds
    exact ne_dash_of_isDigit hdigit (Option.some.inj hhead).symm
  cases b with
  | false =>
    cases b' with
    | false => exact ⟨rfl, heq⟩
    | true => exact absurd heq (hdash h cs')
  | true =>
    cases b' with
    | false => exact absurd heq.symm (hdash h' cs)
    | true => exact ⟨rfl, (List.cons.inj heq).2⟩

theorem IsInteger.unique (h : IsInteger cs n) (h' : IsInteger cs n') : n = n' := by
  obtain ⟨b, ds, hds, rfl, rfl⟩ := h
  obtain ⟨b', ds', hds', heq, rfl⟩ := h'
  obtain ⟨rfl, rfl⟩ := signed_inj hds.head hds'.head heq
  rfl

theorem IsPointed.unique (h : IsPointed cs m) (h' : IsPointed cs m') : m = m' := by
  obtain ⟨ds₁, ds₂, hds₁, hds₂, rfl, rfl⟩ := h
  obtain ⟨ds₁', ds₂', -, -, heq, rfl⟩ := h'
  have hpoint : '.' ∉ ds₁ ∧ '.' ∉ ds₂ := ⟨hds₁.notMem (by decide), hds₂.notMem (by decide)⟩
  obtain ⟨rfl, -, rfl⟩ := (List.append_cons_inj_of_notMem hpoint.1 hpoint.2).mp heq
  rfl

theorem IsMantissa.unique (h : IsMantissa cs m) (h' : IsMantissa cs m') : m = m' := by
  rcases h with ⟨hcs, rfl⟩ | hcs
  · rcases h' with ⟨-, rfl⟩ | hcs'
    · rfl
    · exact absurd hcs'.point_mem (hcs.notMem (by decide))
  · rcases h' with ⟨hcs', rfl⟩ | hcs'
    · exact absurd hcs.point_mem (hcs'.notMem (by decide))
    · exact hcs.unique hcs'

theorem IsScaled.unique (h : IsScaled cs v) (h' : IsScaled cs v') : v = v' := by
  obtain ⟨ms, es, m, e, hms, hes, rfl, rfl⟩ := h
  obtain ⟨ms', es', m', e', hms', hes', heq, rfl⟩ := h'
  obtain ⟨rfl, -, rfl⟩ := (List.append_cons_inj_of_notMem hms.e_notMem
    (hes.notMem (Or.inr rfl))).mp heq
  rw [hms.unique hms', hes.unique hes']

theorem IsReal.unique (h : IsReal cs v) (h' : IsReal cs v') : v = v' := by
  have hapart {cs : List Char} {v v' : ℚ} (h : IsPointed cs v) : ¬IsScaled cs v' := by
    rintro ⟨ms, es, m, e, -, -, rfl, -⟩
    exact h.e_notMem (List.mem_append_right ms List.mem_cons_self)
  rcases h with hcs | hcs
  · rcases h' with hcs' | hcs'
    · exact hcs.unique hcs'
    · exact absurd hcs' (hapart hcs)
  · rcases h' with hcs' | hcs'
    · exact absurd hcs (hapart hcs')
    · exact hcs.unique hcs'

/-! ## Texts of numbers -/

theorem isDigits_toDigits (n : Nat) : IsDigits (Nat.toDigits 10 n) :=
  ⟨Nat.toDigits_ne_nil, fun _ ↦ isDigit_of_mem_toDigits⟩

theorem isInteger_toString (n : Int) : IsInteger (toString n).toList n := by
  have hwhole : wholeOf (Nat.toDigits 10 n.natAbs) = n.natAbs := Nat.ofDigitChars_ten_toDigits
  refine ⟨n < 0, Nat.toDigits 10 n.natAbs, isDigits_toDigits _, ?_, ?_⟩
  · rw [toList_toString_int, signed]
    simp only [decide_eq_true_eq]
  · rw [hwhole]
    split
    · next h =>
      have hneg := of_decide_eq_true h
      omega
    · next h =>
      have hnonneg := of_decide_eq_false (Bool.eq_false_iff.mpr h)
      omega

/-- A pointed number is read by the reader of decimals as it is by this syntax. -/
theorem IsPointed.read_append (h : IsPointed cs m) {es : List Char} {e : Int}
    (hes : IsExponent es e) : Decimal.read (cs ++ es) = m * 10 ^ e := by
  obtain ⟨ds, ds', hds, hds', rfl, rfl⟩ := h
  have hten : (10 : ℚ) ≠ 0 := by norm_num
  rw [Decimal.read_point hds.isDigit hds'.isDigit hes, zpow_sub₀ hten, zpow_natCast]
  ring

theorem IsMantissa.read_append (h : IsMantissa cs m) {es : List Char} {e : Int}
    (hes : IsExponent es e) : Decimal.read (cs ++ es) = m * 10 ^ e := by
  rcases h with ⟨hcs, rfl⟩ | hcs
  · exact Decimal.read_whole hcs.isDigit hes
  · exact hcs.read_append hes

/-- The digits of a decimal in their places have a point between them. -/
theorem exists_isPointed_positional (hds : IsDigits ds) (point : Int) :
    ∃ m, IsPointed (Decimal.positional ds point) m := by
  have hzero : IsDigits ['0'] := ⟨List.cons_ne_nil _ _, by simp⟩
  have hzeros (n : Nat) : ∀ c ∈ List.replicate n '0', c.isDigit := Decimal.isDigit_zeros
  rw [Decimal.positional]
  split
  · refine ⟨_, ['0'], _, hzero, ⟨by simp [hds.ne_nil], ?_⟩, rfl, rfl⟩
    exact fun c hc ↦ (List.mem_append.mp hc).elim (hzeros _ c) (hds.isDigit c)
  · split
    · next hpoint hinside =>
      refine ⟨_, _, _, ⟨?_, ?_⟩, ⟨?_, ?_⟩, rfl, rfl⟩
      · rw [← List.length_pos_iff, List.length_take]
        omega
      · exact fun c hc ↦ hds.isDigit c (List.mem_of_mem_take hc)
      · rw [← List.length_pos_iff, List.length_drop]
        omega
      · exact fun c hc ↦ hds.isDigit c (List.mem_of_mem_drop hc)
    · refine ⟨_, _, ['0'], ⟨?_, ?_⟩, hzero, (List.append_assoc _ _ _).symm, rfl⟩
      · exact List.append_ne_nil_of_left_ne_nil hds.ne_nil _
      · exact fun c hc ↦ (List.mem_append.mp hc).elim (hds.isDigit c) (hzeros _ c)

/-- A decimal in scientific form has an exponent. -/
theorem exists_isMantissa_scientific (hds : IsDigits ds) (point : Int) :
    ∃ ms m, IsMantissa ms m ∧
      Decimal.scientific ds point = ms ++ 'e' :: (toString (point - 1)).toList := by
  obtain ⟨hne, hdigit⟩ := hds
  obtain ⟨c, ds, rfl⟩ := List.exists_cons_of_ne_nil hne
  obtain ⟨hc, hds⟩ := List.forall_mem_cons.mp hdigit
  have hsingle : IsDigits [c] := ⟨List.cons_ne_nil _ _, List.forall_mem_singleton.mpr hc⟩
  cases ds with
  | nil => exact ⟨[c], _, Or.inl ⟨hsingle, rfl⟩, rfl⟩
  | cons c' ds =>
    have hrest : IsDigits (c' :: ds) := ⟨List.cons_ne_nil _ _, hds⟩
    exact ⟨_, _, Or.inr ⟨[c], c' :: ds, hsingle, hrest, rfl, rfl⟩, by simp [Decimal.scientific]⟩

/-- A decimal is written as a floating-point number that is read as the decimal. -/
theorem isReal_text (d : Decimal) : IsReal d.text d.value := by
  have hdigits := isDigits_toDigits d.digits
  rw [← Decimal.read_text, Decimal.text]
  split
  · obtain ⟨m, hm⟩ := exists_isPointed_positional hdigits (_ + d.exponent)
    have hread := hm.read_append (Or.inl ⟨rfl, rfl⟩)
    rw [List.append_nil, zpow_zero, mul_one] at hread
    rw [hread]
    exact Or.inl hm
  · obtain ⟨ms, m, hms, heq⟩ := exists_isMantissa_scientific hdigits (_ + d.exponent)
    rw [heq, hms.read_append (Or.inr rfl)]
    exact Or.inr ⟨ms, _, m, _, hms, isInteger_toString _, rfl, rfl⟩

/-- A finite number is written without its sign as a floating-point number. -/
theorem isReal_unsignedText (x : Binary64) :
    IsReal x.unsignedText (Decimal.read x.unsignedText) := by
  rw [Binary64.unsignedText]
  split
  · have hzero : IsDigits ['0'] := ⟨List.cons_ne_nil _ _, by simp⟩
    have hpointed : IsPointed ['0', '.', '0'] _ := ⟨['0'], ['0'], hzero, hzero, rfl, rfl⟩
    have hread := hpointed.read_append (Or.inl ⟨rfl, rfl⟩)
    rw [List.append_nil, zpow_zero, mul_one] at hread
    rw [hread]
    exact Or.inl hpointed
  · rw [Decimal.read_text]
    exact isReal_text _

end SqlBuilder.Reading
