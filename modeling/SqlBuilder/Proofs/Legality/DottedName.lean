import SqlBuilder.Proofs.Number.Numeral
import SqlBuilder.Text.DottedName

/-!
# The grammar of dotted names

A dotted name is one word or several with single dots between them. The test for it splits the name
at its dots and looks at the pieces; here it is compared with the grammar, which puts words
together.
-/

namespace SqlBuilder.Text

/-! ## Words -/

/-- A word of ASCII letters, digits and `_` that does not start with a digit. -/
structure IsPlainWord (w : List Char) : Prop where
  /-- There is something to read. -/
  ne_nil : w ≠ []
  /-- Only these characters occur. -/
  chars : ∀ c ∈ w, c.isAlpha ∨ c.isDigit ∨ c = '_'
  /-- The first one is no digit. -/
  head : ∀ c ∈ w.head?, c.isDigit = false

theorem isWordStart_iff {c : Char} :
    isWordStart c ↔ (c.isAlpha ∨ c.isDigit ∨ c = '_') ∧ c.isDigit = false := by
  rw [isWordStart, Bool.or_eq_true, beq_iff_eq]
  constructor
  · rintro (halpha | rfl)
    · refine ⟨Or.inl halpha, Bool.eq_false_iff.mpr fun hdigit ↦ ?_⟩
      rw [isAlpha_eq_false_of_isDigit hdigit] at halpha
      exact absurd halpha Bool.false_ne_true
    · exact ⟨Or.inr (Or.inr rfl), rfl⟩
  · rintro ⟨halpha | hdigit | hunderscore, hhead⟩
    · exact Or.inl halpha
    · rw [hdigit] at hhead
      exact nomatch hhead
    · exact Or.inr hunderscore

theorem isWordChar_iff {c : Char} : isWordChar c ↔ c.isAlpha ∨ c.isDigit ∨ c = '_' := by
  rw [isWordChar, Char.isAlphanum, Bool.or_eq_true, Bool.or_eq_true, beq_iff_eq, or_assoc]

theorem isWord_iff {w : List Char} : isWord w ↔ IsPlainWord w := by
  cases w with
  | nil =>
    constructor
    · intro h
      exact nomatch h
    · intro h
      exact absurd rfl h.ne_nil
  | cons c w =>
    rw [isWord, Bool.and_eq_true, isWordStart_iff, List.all_eq_true]
    simp only [isWordChar_iff]
    constructor
    · rintro ⟨⟨hc, hhead⟩, hw⟩
      exact ⟨List.cons_ne_nil _ _, List.forall_mem_cons.mpr ⟨hc, hw⟩, by simpa using hhead⟩
    · intro h
      obtain ⟨hc, hw⟩ := List.forall_mem_cons.mp h.chars
      exact ⟨⟨hc, h.head c rfl⟩, hw⟩

theorem IsPlainWord.not_mem_dot {w : List Char} (h : IsPlainWord w) : '.' ∉ w := by
  intro hmem
  exact absurd (h.chars '.' hmem) (by decide)

/-! ## Names -/

/-- The name is one or more words with single dots between them. -/
def IsFunctionName (name : String) : Prop :=
  ∃ ws : List (List Char), ws ≠ [] ∧ (∀ w ∈ ws, IsPlainWord w) ∧
    name.toList = ['.'].intercalate ws

theorem splitAt_eq_splitOn (sep : Char) (cs : List Char) : splitAt sep cs = cs.splitOn sep := by
  induction cs with
  | nil => rw [splitAt, List.splitOn_nil]
  | cons c cs ih =>
    rw [splitAt, List.splitOn_cons_eq_if_modifyHead, ih]
    by_cases hc : c = sep
    · rw [if_pos hc, if_pos (beq_iff_eq.mpr hc)]
    · rw [if_neg hc, if_neg (by simpa using hc)]
      obtain ⟨w, ws, hsplit⟩ := List.exists_cons_of_ne_nil (List.splitOn_ne_nil sep cs)
      rw [hsplit]
      rfl

/-- The names that pass the test are those of the grammar. -/
theorem isDottedName_iff {name : String} : isDottedName name ↔ IsFunctionName name := by
  rw [isDottedName, splitAt_eq_splitOn, List.all_eq_true]
  simp only [isWord_iff]
  constructor
  · intro hwords
    exact ⟨_, List.splitOn_ne_nil _ _, hwords, (List.intercalate_splitOn '.').symm⟩
  · rintro ⟨ws, hne, hwords, hname⟩
    rw [hname, List.splitOn_intercalate '.' (fun w hw ↦ (hwords w hw).not_mem_dot) hne]
    exact hwords

instance : DecidablePred IsFunctionName := fun _ ↦ decidable_of_iff _ isDottedName_iff

end SqlBuilder.Text
