import SqlBuilder.Dialect.Basic

/-!
# Reading quoted text

The reader is told by which quote a text was opened, and stands behind that quote. A quote that is
written twice belongs to the text; any other quote ends it. Where backslashes escape, the character
behind one belongs to the text whatever it is.

Reading is a left inverse of quoting in front of everything that does not begin with the same quote.
The two doublings of a string literal are undone in one pass: a doubled backslash is an escaped
backslash, and no quote stands behind a backslash that is not itself escaped.
-/

namespace SqlBuilder.Reading

open Text

/-- Reads quoted text from behind its opening quote: the text, and what follows the closing quote. A
text that is never closed cannot be read. -/
def unquote (q : Char) (escapes : Bool) : List Char → Option (List Char × List Char)
  | [] => none
  | c :: cs =>
    if escapes && c == '\\' then
      match cs with
      | [] => none
      | e :: cs => (unquote q escapes cs).map fun read ↦ (e :: read.1, read.2)
    else if c = q then
      match cs with
      | [] => some ([], [])
      | c' :: cs =>
        if c' = q then (unquote q escapes cs).map fun read ↦ (q :: read.1, read.2)
        else some ([], c' :: cs)
    else (unquote q escapes cs).map fun read ↦ (c :: read.1, read.2)

/-- Reading makes progress: what follows a quoted text is shorter than what was read. -/
theorem length_lt_of_unquote {q : Char} {escapes : Bool} {cs s r : List Char}
    (h : unquote q escapes cs = some (s, r)) : r.length < cs.length := by
  fun_induction unquote q escapes cs generalizing s with
  | case1 | case2 => simp at h
  | case3 c hc e cs ih | case5 hc cs ih | case7 c cs hc hq ih =>
    obtain ⟨read, hread, heq⟩ := Option.map_eq_some_iff.mp h
    obtain ⟨-, rfl⟩ := Prod.mk.inj heq
    have hlt := ih hread
    simp only [List.length_cons]
    omega
  | case4 | case6 =>
    cases h
    simp

/-! ## One character at a time -/

section Steps

variable {q c : Char} {escapes : Bool} {cs : List Char}

theorem unquote_escape (c : Char) (cs : List Char) :
    unquote q true ('\\' :: c :: cs)
      = (unquote q true cs).map fun read ↦ (c :: read.1, read.2) := by
  rw [unquote]
  simp

theorem unquote_twice (h : (escapes && q == '\\') = false) :
    unquote q escapes (q :: q :: cs)
      = (unquote q escapes cs).map fun read ↦ (q :: read.1, read.2) := by
  rw [unquote.eq_def]
  simp [h]

theorem unquote_end (h : (escapes && q == '\\') = false) (hcs : cs.head? ≠ some q) :
    unquote q escapes (q :: cs) = some ([], cs) := by
  rw [unquote.eq_def]
  cases cs with
  | nil => simp [h]
  | cons c cs =>
    have hc : c ≠ q := by simpa using hcs
    simp [h, hc]

theorem unquote_plain (hc : c ≠ q) (h : (escapes && c == '\\') = false) :
    unquote q escapes (c :: cs)
      = (unquote q escapes cs).map fun read ↦ (c :: read.1, read.2) := by
  rw [unquote.eq_def]
  simp [h, hc]

end Steps

/-! ## Reading what was quoted -/

theorem unquote_doubled {q : Char} {r : List Char} (hr : r.head? ≠ some q) (s : List Char) :
    unquote q false (doubled q s ++ q :: r) = some (s, r) := by
  induction s with
  | nil => exact unquote_end rfl hr
  | cons c s ih =>
    by_cases hc : c = q
    · subst hc
      rw [doubled, if_pos rfl, List.cons_append, List.cons_append, unquote_twice rfl, ih]
      rfl
    · rw [doubled, if_neg hc, List.cons_append, unquote_plain hc rfl, ih]
      rfl

/-- Where backslashes escape and are doubled before the quote is. -/
theorem unquote_doubled_backslash {r : List Char} (hr : r.head? ≠ some '\'') (s : List Char) :
    unquote '\'' true (doubled '\'' (doubled '\\' s) ++ '\'' :: r) = some (s, r) := by
  induction s with
  | nil => exact unquote_end rfl hr
  | cons c s ih =>
    by_cases hc : c = '\\'
    · subst hc
      -- Doubling quotes leaves backslashes alone, so the pair is read as one escape.
      rw [doubled, if_pos rfl, doubled, if_neg (by decide), doubled, if_neg (by decide),
        List.cons_append, List.cons_append, unquote_escape, ih]
      rfl
    · rw [doubled, if_neg hc]
      by_cases hq : c = '\''
      · subst hq
        rw [doubled, if_pos rfl, List.cons_append, List.cons_append, unquote_twice rfl, ih]
        rfl
      · rw [doubled, if_neg hq, List.cons_append, unquote_plain hq (by simpa using hc), ih]
        rfl

/-- A text as a string literal, which a reader undoes who knows whether backslashes escape. -/
def stringText (escapes : Bool) (s : String) : String :=
  String.ofList (quoted '\'' (if escapes then doubled '\\' s.toList else s.toList))

/-- A string literal reads back by its rule. -/
theorem unquote_stringText (escapes : Bool) (s : String) {r : List Char}
    (hr : r.head? ≠ some '\'') :
    (stringText escapes s).toList ++ r = '\'' :: ((stringText escapes s).toList.tail ++ r) ∧
      unquote '\'' escapes ((stringText escapes s).toList.tail ++ r) = some (s.toList, r) := by
  refine ⟨by simp [stringText, quoted], ?_⟩
  cases escapes with
  | false => simpa [stringText, quoted] using unquote_doubled hr s.toList
  | true => simpa [stringText, quoted] using unquote_doubled_backslash hr s.toList

end SqlBuilder.Reading

namespace SqlBuilder

/-- Whether a backslash escapes in the string literals of a dialect, as those read them who know the
dialect by its name. -/
def Dialect.escapesBackslash (d : Dialect) : Bool :=
  d.name == "mysql"

end SqlBuilder
