import SqlBuilder.Number.FloatText
import Mathlib.Data.List.Chain
import Std.Data.String.ToInt

/-!
# The shape of numerals

Whole numbers and finite floating-point numbers are written as one word without blanks. What matters
for a statement around it is that the word begins with a digit or a minus, so that it is no keyword,
and that no minus follows another one, so that it starts no comment.
-/

namespace SqlBuilder

/-- A character that a numeral can hold. -/
def isNumeralChar (c : Char) : Bool :=
  c.isDigit || c == '.' || c == 'e' || c == '-'

/-- No minus follows another one. -/
def Undashed (cs : List Char) : Prop :=
  cs.IsChain fun a b ↦ ¬(a = '-' ∧ b = '-')

/-- A numeral that begins with a digit. -/
structure UnsignedNumeral (cs : List Char) : Prop where
  /-- Only the characters of numerals occur. -/
  chars : ∀ c ∈ cs, isNumeralChar c
  /-- The first character is a digit. -/
  head : ∃ c, cs.head? = some c ∧ c.isDigit
  /-- No minus follows another one. -/
  undashed : Undashed cs

/-- A numeral. -/
structure Numeral (cs : List Char) : Prop where
  /-- Only the characters of numerals occur. -/
  chars : ∀ c ∈ cs, isNumeralChar c
  /-- The first character is a digit or a minus. -/
  head : ∃ c, cs.head? = some c ∧ (c.isDigit ∨ c = '-')
  /-- No minus follows another one. -/
  undashed : Undashed cs

theorem isNumeralChar_of_isDigit {c : Char} (h : c.isDigit) : isNumeralChar c := by
  simp [isNumeralChar, h]

/-- A character of a class is none that is outside the class. -/
theorem ne_of_class {p : Char → Bool} {a c : Char} (hc : p c) (ha : p a = false) : c ≠ a := by
  rintro rfl
  simp [hc] at ha

theorem ne_dash_of_isDigit {c : Char} (h : c.isDigit) : c ≠ '-' :=
  ne_of_class h (by decide)

/-- No digit is a letter. -/
theorem isAlpha_eq_false_of_isDigit {c : Char} (h : c.isDigit) : c.isAlpha = false := by
  have hdigits : ∀ n < 58, 48 ≤ n → (Char.ofNat n).isAlpha = false := by decide
  have hrange : 48 ≤ c.toNat ∧ c.toNat ≤ 57 := Char.isDigit_iff_toNat.mp h
  rw [← Char.ofNat_toNat c]
  exact hdigits c.toNat (by omega) hrange.1

/-! ## Where no minus follows another one -/

theorem undashed_of_notMem {cs : List Char} (h : '-' ∉ cs) : Undashed cs := by
  induction cs with
  | nil => exact List.IsChain.nil
  | cons c cs ih =>
    rw [List.mem_cons, not_or] at h
    cases cs with
    | nil => exact List.IsChain.singleton c
    | cons c' cs => exact List.IsChain.cons_cons (fun hc ↦ h.1 hc.1.symm) (ih h.2)

theorem undashed_append {cs cs' : List Char} (h : '-' ∉ cs) (h' : Undashed cs') :
    Undashed (cs ++ cs') := by
  rw [Undashed, List.isChain_append]
  refine ⟨undashed_of_notMem h, h', ?_⟩
  rintro a ha b - ⟨rfl, -⟩
  exact h (List.mem_of_mem_getLast? ha)

/-! ## Signs -/

theorem UnsignedNumeral.numeral {cs : List Char} (h : UnsignedNumeral cs) : Numeral cs := by
  obtain ⟨c, hhead, hdigit⟩ := h.head
  exact ⟨h.chars, ⟨c, hhead, Or.inl hdigit⟩, h.undashed⟩

theorem UnsignedNumeral.neg {cs : List Char} (h : UnsignedNumeral cs) : Numeral ('-' :: cs) := by
  obtain ⟨c, hhead, hdigit⟩ := h.head
  refine ⟨?_, ⟨'-', rfl, Or.inr rfl⟩, ?_⟩
  · intro a ha
    rcases List.mem_cons.mp ha with rfl | ha
    · rfl
    · exact h.chars a ha
  · rw [Undashed, List.isChain_cons]
    refine ⟨?_, h.undashed⟩
    rintro b hb ⟨-, rfl⟩
    obtain rfl := Option.some.inj (hb.symm.trans hhead)
    exact ne_dash_of_isDigit hdigit rfl

/-! ## Whole numbers -/

theorem isDigit_of_mem_toDigits {n : Nat} {c : Char} (h : c ∈ Nat.toDigits 10 n) : c.isDigit :=
  Nat.isDigit_of_mem_toDigits (by decide) (by decide) h

theorem dash_notMem_of_isDigit {cs : List Char} (h : ∀ c ∈ cs, c.isDigit) : '-' ∉ cs := fun hmem ↦
  ne_dash_of_isDigit (h '-' hmem) rfl

theorem unsignedNumeral_of_isDigit {cs : List Char} (hne : cs ≠ []) (h : ∀ c ∈ cs, c.isDigit) :
    UnsignedNumeral cs where
  chars c hc := isNumeralChar_of_isDigit (h c hc)
  head := by
    obtain ⟨c, cs, rfl⟩ := List.exists_cons_of_ne_nil hne
    exact ⟨c, rfl, h c List.mem_cons_self⟩
  undashed := undashed_of_notMem (dash_notMem_of_isDigit h)

theorem unsignedNumeral_toDigits (n : Nat) : UnsignedNumeral (Nat.toDigits 10 n) :=
  unsignedNumeral_of_isDigit Nat.toDigits_ne_nil fun _ ↦ isDigit_of_mem_toDigits

theorem toList_toString_int (n : Int) :
    (toString n).toList
      = if n < 0 then '-' :: Nat.toDigits 10 n.natAbs else Nat.toDigits 10 n.natAbs := by
  cases n with
  | ofNat n =>
    have hnonneg : ¬((n : Int) < 0) := by omega
    simp [toString, Int.repr, hnonneg]
  | negSucc n =>
    simp [toString, Int.repr, Int.negSucc_lt_zero, Int.natAbs_negSucc]

theorem numeral_int (n : Int) : Numeral (toString n).toList := by
  rw [toList_toString_int]
  by_cases h : n < 0
  · rw [if_pos h]
    exact (unsignedNumeral_toDigits _).neg
  · rw [if_neg h]
    exact (unsignedNumeral_toDigits _).numeral

/-! ## Floating-point numbers -/

theorem unsignedNumeral_append {cs cs' : List Char} (hne : cs ≠ []) (h : ∀ c ∈ cs, c.isDigit)
    (hchars : ∀ c ∈ cs', isNumeralChar c) (h' : Undashed cs') : UnsignedNumeral (cs ++ cs') where
  chars c hc := (List.mem_append.mp hc).elim (fun hc ↦ isNumeralChar_of_isDigit (h c hc)) (hchars c)
  head := by
    obtain ⟨c, cs, rfl⟩ := List.exists_cons_of_ne_nil hne
    exact ⟨c, rfl, h c List.mem_cons_self⟩
  undashed := undashed_append (dash_notMem_of_isDigit h) h'

theorem unsignedNumeral_positional {digits : List Char} (hne : digits ≠ [])
    (h : ∀ c ∈ digits, c.isDigit) (point : Int) :
    UnsignedNumeral (Decimal.positional digits point) := by
  -- In each case digits stand in front of the point, and behind it zeros and then digits.
  have hfraction : ∀ zeros ds : List Char, (∀ c ∈ zeros, c = '0') → (∀ c ∈ ds, c.isDigit) →
      (∀ c ∈ '.' :: (zeros ++ ds), isNumeralChar c) ∧ Undashed ('.' :: (zeros ++ ds)) := by
    intro zeros ds hzeros hds
    have hdigit : ∀ c ∈ zeros ++ ds, c.isDigit := fun c hc ↦
      (List.mem_append.mp hc).elim (fun hc ↦ hzeros c hc ▸ rfl) (hds c)
    constructor
    · intro c hc
      rcases List.mem_cons.mp hc with rfl | hc
      · rfl
      · exact isNumeralChar_of_isDigit (hdigit c hc)
    · apply undashed_of_notMem
      intro hmem
      rcases List.mem_cons.mp hmem with hdot | hmem
      · exact absurd hdot (by decide)
      · exact dash_notMem_of_isDigit hdigit hmem
  rw [Decimal.positional]
  split
  · obtain ⟨hchars, hdash⟩ := hfraction (List.replicate (-point).toNat '0') digits
      (fun c hc ↦ List.eq_of_mem_replicate hc) h
    exact unsignedNumeral_append (List.cons_ne_nil '0' []) (by simp) hchars hdash
  · split
    · obtain ⟨hchars, hdash⟩ := hfraction [] (digits.drop point.toNat) (by simp)
        (fun c hc ↦ h c (List.mem_of_mem_drop hc))
      refine unsignedNumeral_append ?_ (fun c hc ↦ h c (List.mem_of_mem_take hc)) hchars hdash
      rw [← List.length_pos_iff, List.length_take]
      omega
    · obtain ⟨hchars, hdash⟩ := hfraction ['0'] [] (by simp) (by simp)
      rw [← List.append_assoc]
      refine unsignedNumeral_append (by simp [hne]) ?_ hchars hdash
      intro c hc
      rcases List.mem_append.mp hc with hc | hc
      · exact h c hc
      · exact List.eq_of_mem_replicate hc ▸ rfl

theorem unsignedNumeral_scientific {digits : List Char} (hne : digits ≠ [])
    (h : ∀ c ∈ digits, c.isDigit) (point : Int) :
    UnsignedNumeral (Decimal.scientific digits point) := by
  have hexponent := numeral_int (point - 1)
  obtain ⟨d, ds, rfl⟩ := List.exists_cons_of_ne_nil hne
  have hd : ∀ c ∈ [d], c.isDigit :=
    fun c hc ↦ h c (by simpa using Or.inl (List.mem_singleton.mp hc))
  -- The only minus that can occur is the sign of the exponent.
  have htail : (∀ c ∈ 'e' :: (toString (point - 1)).toList, isNumeralChar c)
      ∧ Undashed ('e' :: (toString (point - 1)).toList) := by
    refine ⟨?_, @undashed_append ['e'] _ (by decide) hexponent.undashed⟩
    intro c hc
    rcases List.mem_cons.mp hc with rfl | hc
    · rfl
    · exact hexponent.chars c hc
  cases ds with
  | nil => exact unsignedNumeral_append (List.cons_ne_nil d []) hd htail.1 htail.2
  | cons d' ds =>
    have hds : ∀ c ∈ d' :: ds, c.isDigit := fun c hc ↦ h c (List.mem_cons_of_mem d hc)
    refine @unsignedNumeral_append [d] ('.' :: ((d' :: ds) ++ 'e' :: (toString (point - 1)).toList))
      (List.cons_ne_nil d []) hd ?_ ?_
    · intro c hc
      rcases List.mem_cons.mp hc with rfl | hc
      · rfl
      · exact (List.mem_append.mp hc).elim (fun hc ↦ isNumeralChar_of_isDigit (hds c hc))
          (htail.1 c)
    · refine @undashed_append ('.' :: d' :: ds) _ ?_ htail.2
      intro hmem
      rcases List.mem_cons.mp hmem with hdot | hmem
      · exact absurd hdot (by decide)
      · exact dash_notMem_of_isDigit hds hmem

theorem unsignedNumeral_decimal (x : Decimal) : UnsignedNumeral x.text := by
  rw [Decimal.text]
  split
  · exact unsignedNumeral_positional Nat.toDigits_ne_nil (fun _ ↦ isDigit_of_mem_toDigits) _
  · exact unsignedNumeral_scientific Nat.toDigits_ne_nil (fun _ ↦ isDigit_of_mem_toDigits) _

namespace Binary64

/-- The text of a finite number in front of which its sign is left out. -/
def unsignedText (x : Binary64) : List Char :=
  if x.magnitude = 0 then ['0', '.', '0'] else x.shortest.text

theorem isNaN_of_isFinite {x : Binary64} (h : x.isFinite) : x.isNaN = false := by
  rw [isFinite, bne_iff_ne] at h
  simp [isNaN, h]

theorem toList_text {x : Binary64} (h : x.isFinite) :
    x.text.toList = if x.isNegative then '-' :: x.unsignedText else x.unsignedText := by
  simp [text, isNaN_of_isFinite h, h, unsignedText]

theorem unsignedNumeral_unsignedText (x : Binary64) : UnsignedNumeral x.unsignedText := by
  rw [unsignedText]
  split
  · have hdigits : ∀ c ∈ ['0'], c.isDigit := List.all_eq_true.mp (by decide)
    have hchars : ∀ c ∈ ['.', '0'], isNumeralChar c := List.all_eq_true.mp (by decide)
    exact unsignedNumeral_append (List.cons_ne_nil _ _) hdigits hchars
      (undashed_of_notMem (by decide))
  · exact unsignedNumeral_decimal _

theorem numeral_text {x : Binary64} (h : x.isFinite) : Numeral x.text.toList := by
  rw [toList_text h]
  split
  · exact x.unsignedNumeral_unsignedText.neg
  · exact x.unsignedNumeral_unsignedText.numeral

end Binary64

end SqlBuilder
