import SqlBuilder.Proofs.Reading.Region

/-!
# Tokens

The second pass joins the characters outside quotes into words. A word is as long as it can be: only
a blank, a comma, a parenthesis or a quoted text ends it. A word with an opening parenthesis
directly behind it starts a call, and the two are one token; any other opening parenthesis groups.
Blanks end words and leave no trace of their own.

The pass carries the word that it is in the middle of, so a text can be read part by part: each
`tokensFrom_` equation reads one more part and says what is left.
-/

namespace SqlBuilder.Reading

/-- The smallest unit that a reader of SQL tells apart. -/
inductive Token where
  /-- A quoted name. -/
  | name (s : String)
  /-- A string literal. -/
  | string (s : String)
  /-- A run of characters outside quotes. -/
  | word (w : List Char)
  /-- The beginning of a call: a word directly in front of an opening parenthesis. -/
  | call (w : List Char)
  /-- An opening parenthesis that starts no call. -/
  | opening
  /-- A closing parenthesis. -/
  | closing
  | comma
deriving DecidableEq, Repr

/-- The token of a quoted text. -/
def QuotedText.token : QuotedText → Token
  | .name s => .name s
  | .string s => .string s

/-- The word that was read, if there was one. -/
def finished (w : List Char) : List Token :=
  if w = [] then [] else [.word w]

/-- The tokens of regions, where `w` was read of the word at hand. -/
def tokensFrom (w : List Char) : List Region → List Token
  | [] => finished w
  | .quoted t :: rs => finished w ++ t.token :: tokensFrom [] rs
  | .plain ' ' :: rs => finished w ++ tokensFrom [] rs
  | .plain ',' :: rs => finished w ++ .comma :: tokensFrom [] rs
  | .plain '(' :: rs => (if w = [] then .opening else .call w) :: tokensFrom [] rs
  | .plain ')' :: rs => finished w ++ .closing :: tokensFrom [] rs
  | .plain c :: rs => tokensFrom (w ++ [c]) rs

/-- The tokens of regions. -/
def tokens (rs : List Region) : List Token :=
  tokensFrom [] rs

/-- The tokens of a text by the rules of a dialect, if it does not end inside quotes. -/
def readTokens (d : Dialect) (sql : String) : Option (List Token) :=
  (regions d sql.toList).map tokens

/-- A character that a word can hold. -/
def isWordPart (c : Char) : Bool :=
  c != ' ' && c != ',' && c != '(' && c != ')'

/-- What follows ends the word in front of it, and does not make a call of it. -/
def EndsWord : List Region → Prop
  | .plain c :: _ => c = ' ' ∨ c = ',' ∨ c = ')'
  | _ => True

/-! ## One part at a time -/

section Parts

variable {w : List Char} {rs : List Region}

@[simp] theorem finished_nil : finished [] = [] := rfl

theorem finished_of_ne_nil (h : w ≠ []) : finished w = [.word w] :=
  if_neg h

theorem tokensFrom_part {c : Char} (hc : isWordPart c) :
    tokensFrom w (.plain c :: rs) = tokensFrom (w ++ [c]) rs := by
  simp only [isWordPart, Bool.and_eq_true, bne_iff_ne] at hc
  obtain ⟨⟨⟨hblank, hcomma⟩, hopening⟩, hclosing⟩ := hc
  rw [tokensFrom]
  all_goals simp_all

theorem tokensFrom_parts {cs : List Char} (h : ∀ c ∈ cs, isWordPart c) :
    tokensFrom w (plainly cs ++ rs) = tokensFrom (w ++ cs) rs := by
  induction cs generalizing w with
  | nil => simp
  | cons c cs ih =>
    rw [plainly_cons, List.cons_append, tokensFrom_part (h c List.mem_cons_self),
      ih fun c hc ↦ h c (List.mem_cons_of_mem _ hc), List.append_assoc]
    rfl

theorem tokensFrom_endsWord (h : EndsWord rs) : tokensFrom w rs = finished w ++ tokens rs := by
  match rs with
  | [] => simp [tokens, tokensFrom]
  | .quoted t :: rs => simp [tokens, tokensFrom]
  | .plain c :: rs =>
    obtain rfl | rfl | rfl := h
    · simp [tokens, tokensFrom]
    · simp [tokens, tokensFrom]
    · simp [tokens, tokensFrom]

theorem eq_of_not_isWordPart {c : Char} (h : isWordPart c = false) :
    c = ' ' ∨ c = ',' ∨ c = '(' ∨ c = ')' := by
  by_contra hne
  simp only [not_or] at hne
  simp [isWordPart, hne] at h

/-- What ends in a character that is no part of a word is read by itself. -/
theorem tokensFrom_delimited {c : Char} (hc : isWordPart c = false) (cs : List Char) :
    tokensFrom w (plainly (cs ++ [c]) ++ rs) = tokensFrom w (plainly (cs ++ [c])) ++ tokens rs := by
  induction cs generalizing w with
  | nil => obtain rfl | rfl | rfl | rfl := eq_of_not_isWordPart hc <;> simp [tokensFrom, tokens]
  | cons a cs ih =>
    rw [List.cons_append, plainly_cons, List.cons_append]
    -- The word at hand grows or is finished, and in both cases the rest is read alike.
    by_cases ha : isWordPart a
    · rw [tokensFrom_part ha, tokensFrom_part ha, ih]
    · obtain rfl | rfl | rfl | rfl := eq_of_not_isWordPart (Bool.eq_false_iff.mpr ha) <;>
        simp [tokensFrom, ih, -plainly_append]

/-- A word is read up to what ends it. -/
theorem tokens_word {cs : List Char} (hne : cs ≠ []) (h : ∀ c ∈ cs, isWordPart c)
    (hrs : EndsWord rs) : tokens (plainly cs ++ rs) = .word cs :: tokens rs := by
  rw [tokens, tokensFrom_parts h, List.nil_append, tokensFrom_endsWord hrs, finished_of_ne_nil hne]
  rfl

/-- A word in front of an opening parenthesis starts a call. -/
theorem tokens_call {cs : List Char} (hne : cs ≠ []) (h : ∀ c ∈ cs, isWordPart c) :
    tokens (plainly cs ++ .plain '(' :: rs) = .call cs :: tokens rs := by
  rw [tokens, tokensFrom_parts h, List.nil_append, tokensFrom, if_neg hne]
  rfl

@[simp] theorem tokens_nil : tokens [] = [] := rfl

end Parts

end SqlBuilder.Reading
