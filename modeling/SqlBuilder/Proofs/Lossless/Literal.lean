import SqlBuilder.Proofs.Failure
import SqlBuilder.Proofs.Number.Shortest
import SqlBuilder.Proofs.Reading.Number
import SqlBuilder.Proofs.Symbols.Expr

/-!
# Literals read back

The literals of a dialect have a syntax, which says of every text which literals it denotes: words
of letters for the fixed ones, a numeral for a number, and a quoted text for a text. A decimal
denotes the number of double precision that it is rounded to. No text denotes two literals, and the
token of a literal denotes it, so the token tells the kind and the value of the literal, down to the
bits of a floating-point number.
-/

namespace SqlBuilder

open Reading

variable {d : Dialect}

namespace Literal

/-! ## Literals that can be written -/

/-- The literal can be written in a place where no default can. -/
def IsPlain (l : Literal) : Prop :=
  l ≠ .default ∧ l.ensureFinite = .ok ()

theorem IsPlain.isFinite {x : Binary64} (h : (float x).IsPlain) : x.isFinite := by
  by_contra hinfinite
  simp [IsPlain, ensureFinite, hinfinite] at h

theorem booleanText_of_mem_builtIn (hd : d ∈ Dialect.builtIn) (b : Bool) :
    d.booleanText b = if b then "TRUE" else "FALSE" := by
  revert d
  cases b <;> decide

/-! ## Kinds -/

/-- Marks that only floating-point numbers have. -/
def hasFraction (cs : List Char) : Bool :=
  cs.any fun c ↦ c == '.' || c == 'e'

/-- The kinds of literals. -/
inductive Kind where
  | default | null | string | integer | float | boolean | all
deriving DecidableEq

/-- The kind of a literal. -/
def kind : Literal → Kind
  | .default => .default
  | .null => .null
  | .string _ => .string
  | .integer _ => .integer
  | .float _ => .float
  | .boolean _ => .boolean
  | .all => .all

/-- The kind that a token shows. -/
def kindOf : Token → Kind
  | .string _ => .string
  | .word w =>
    if w = "NULL".toList then .null
    else if w = "*".toList then .all
    else if w = "TRUE".toList ∨ w = "FALSE".toList then .boolean
    else if hasFraction w then .float else .integer
  | _ => .default

/-- What begins like a numeral is none of the words that begin otherwise. -/
theorem ne_of_numeral {cs : List Char} (h : ∃ c, cs.head? = some c ∧ (c.isDigit ∨ c = '-'))
    {s : String}
    (hs : s.toList.head?.any (fun c ↦ c.isDigit || c == '-') = false) : cs ≠ s.toList := by
  rintro rfl
  obtain ⟨c, hhead, hc⟩ := h
  rw [hhead] at hs
  rcases hc with hdigit | rfl
  · simp [hdigit] at hs
  · simp at hs

theorem kindOf_numeral {cs : List Char} (h : ∃ c, cs.head? = some c ∧ (c.isDigit ∨ c = '-')) :
    kindOf (.word cs) = if hasFraction cs then .float else .integer := by
  have hletters : ∀ s ∈ ["NULL", "*", "TRUE", "FALSE"],
      s.toList.head?.any (fun c ↦ c.isDigit || c == '-') = false := by
    decide
  have hne : ∀ s ∈ ["NULL", "*", "TRUE", "FALSE"], cs ≠ s.toList := fun s hs ↦
    ne_of_numeral h (hletters s hs)
  rw [kindOf, if_neg (hne "NULL" (by simp)), if_neg (hne "*" (by simp)),
    if_neg (not_or.mpr ⟨hne "TRUE" (by simp), hne "FALSE" (by simp)⟩)]

/-! ## The syntax of literals -/

/-- The text denotes the literal. A column's default is no literal that can be read. -/
def Denotes (d : Dialect) (t : List Char) : Literal → Prop
  | .default => False
  | .null => t = "NULL".toList
  | .boolean b => t = (if b then "TRUE" else "FALSE").toList
  | .all => t = "*".toList
  | .integer n => IsInteger t n.toInt
  | .float x => ∃ cs v, t = signed x.isNegative cs ∧ IsReal cs v ∧ x.IsNearest v
  | .string s => ∃ cs, t = '\'' :: cs ∧ unquote '\'' d.escapesBackslash cs = some (s.toList, [])

/-- The kind that a text shows. -/
def kindShown (t : List Char) : Kind :=
  if t.head? = some '\'' then .string else kindOf (.word t)

variable {t cs : List Char} {l l' : Literal}

theorem hasFraction_iff : hasFraction t ↔ '.' ∈ t ∨ 'e' ∈ t := by
  simp only [hasFraction, List.any_eq_true, Bool.or_eq_true, beq_iff_eq]
  constructor
  · rintro ⟨c, hc, rfl | rfl⟩
    · exact Or.inl hc
    · exact Or.inr hc
  · rintro (hc | hc)
    · exact ⟨_, hc, Or.inl rfl⟩
    · exact ⟨_, hc, Or.inr rfl⟩

theorem kindShown_signed (h : ∃ c, cs.head? = some c ∧ c.isDigit) (negative : Bool) :
    kindShown (signed negative cs) =
      if hasFraction (signed negative cs) then .float else .integer := by
  have hhead := head_signed h negative
  rw [kindShown, kindOf_numeral hhead, if_neg]
  obtain ⟨c, hc, hclass⟩ := hhead
  rw [hc, Option.some.injEq]
  rcases hclass with hdigit | rfl
  · exact ne_of_class hdigit (by decide)
  · decide

theorem kind_of_denotes (h : l.Denotes d t) : l.kind = kindShown t := by
  cases l with
  | default => exact h.elim
  | null =>
    obtain rfl : t = _ := h
    decide
  | all =>
    obtain rfl : t = _ := h
    decide
  | boolean b =>
    obtain rfl : t = _ := h
    cases b <;> decide
  | string s =>
    obtain ⟨cs, rfl, -⟩ := h
    rfl
  | integer n =>
    have hplain : hasFraction t = false := by
      rw [Bool.eq_false_iff, Ne, hasFraction_iff, not_or]
      exact ⟨IsInteger.notMem h (Or.inl rfl), IsInteger.notMem h (Or.inr rfl)⟩
    obtain ⟨negative, ds, hds, rfl, -⟩ := h
    rw [kindShown_signed hds.head, hplain]
    rfl
  | float x =>
    obtain ⟨cs, v, rfl, hcs, -⟩ := h
    have hmarked : hasFraction (signed x.isNegative cs) :=
      hasFraction_iff.mpr (hcs.marked.imp (mem_signed · _) (mem_signed · _))
    rw [kindShown_signed hcs.head, hmarked]
    rfl

/-- No text denotes two literals. -/
theorem denotes_unique (h : l.Denotes d t) (h' : l'.Denotes d t) : l = l' := by
  have hkind : l.kind = l'.kind := (kind_of_denotes h).trans (kind_of_denotes h').symm
  -- Two literals of different kinds are told apart already.
  cases l with
  | default => exact h.elim
  | null => cases l' <;> simp_all [kind]
  | all => cases l' <;> simp_all [kind]
  | string s =>
    cases l' with
    | string s' =>
      obtain ⟨cs, rfl, hs⟩ := h
      obtain ⟨cs', hcs, hs'⟩ := h'
      obtain rfl := (List.cons.inj hcs).2
      rw [hs, Option.some.injEq, Prod.mk.injEq] at hs'
      rw [String.toList_inj.mp hs'.1]
    | _ => simp [kind] at hkind
  | integer n =>
    cases l' with
    | integer n' => rw [Int64.toInt_inj.mp (IsInteger.unique h h')]
    | _ => simp [kind] at hkind
  | float x =>
    cases l' with
    | float y =>
      obtain ⟨cs, v, rfl, hcs, hx⟩ := h
      obtain ⟨cs', v', heq, hcs', hy⟩ := h'
      obtain ⟨hsign, rfl⟩ := signed_inj hcs.head hcs'.head heq
      obtain rfl := hcs.unique hcs'
      rw [Binary64.eq_of_rank_eq hsign (hx.rank_eq hy)]
    | _ => simp [kind] at hkind
  | boolean b =>
    cases l' with
    | boolean b' => cases b <;> cases b' <;> simp_all [Denotes]
    | _ => simp [kind] at hkind

/-! ## Tokens -/

/-- The token of a literal denotes it. -/
theorem denotes_usualText (hd : d ∈ Dialect.builtIn) (hl : l.IsPlain) :
    l.Denotes d (d.usualText l).toList := by
  cases l with
  | default => exact absurd rfl hl.1
  | null => rfl
  | all => rfl
  | boolean b =>
    rw [Dialect.usualText, booleanText_of_mem_builtIn hd]
    rfl
  | string s =>
    rw [Dialect.usualText, (Dialect.regular_of_mem_builtIn hd).stringLiteral_eq]
    obtain ⟨hopened, hread⟩ := unquote_stringText d.escapesBackslash s (r := []) (by simp)
    rw [List.append_nil, List.append_nil] at hopened
    rw [List.append_nil] at hread
    exact ⟨_, hopened, hread⟩
  | integer n => exact isInteger_toString n.toInt
  | float x =>
    have hfinite := hl.isFinite
    refine ⟨x.unsignedText, _, Binary64.toList_text hfinite, isReal_unsignedText x, ?_⟩
    exact Binary64.isNearest_of_holds (Binary64.isNaN_of_isFinite hfinite) x.holds_unsignedText

/-- The token of a literal determines the literal. -/
theorem token_injective (hd : d ∈ Dialect.builtIn) (hl : l.IsPlain) (hl' : l'.IsPlain)
    (h : l.token d = l'.token d) : l = l' := by
  -- Only a text has a token of its own kind, and it is that text.
  have hword {l l' : Literal} (hl : ∀ s, l ≠ .string s) (h : l.token d = l'.token d) :
      ∀ s, l' ≠ .string s := by
    rintro s rfl
    rw [token_of_ne_string hl] at h
    simp [token] at h
  by_cases hstring : ∀ s, l ≠ .string s
  · have htext := h
    rw [token_of_ne_string hstring, token_of_ne_string (hword hstring h), Token.word.injEq] at htext
    have hself := denotes_usualText hd hl
    rw [htext] at hself
    exact denotes_unique hself (denotes_usualText hd hl')
  · obtain ⟨s, rfl⟩ := not_forall_not.mp hstring
    by_cases hstring' : ∀ s', l' ≠ .string s'
    · exact absurd rfl (hword hstring' h.symm s)
    · obtain ⟨s', rfl⟩ := not_forall_not.mp hstring'
      rw [Token.string.inj h]

theorem renderLiteral_eq_ok_iff (hd : d ∈ Dialect.builtIn) {s : String} :
    d.renderLiteral l = .ok s ↔ l.ensureFinite = .ok () ∧ d.usualText l = s :=
  Dialect.renderLiteral_eq_ok_iff_of_usual (Dialect.regular_of_mem_builtIn hd).renderLiteral_usual

theorem ensureFinite_eq_error_iff {e : BuildError} :
    l.ensureFinite = .error e ↔ e = .nonFiniteNumber ∧ ∃ x, l = .float x ∧ ¬x.isFinite := by
  cases l with
  | float x =>
    by_cases hx : x.isFinite
    · simp [ensureFinite, hx]
    · rw [ensureFinite, if_neg hx, Except.error.injEq, eq_comm, iff_self_and]
      exact fun _ ↦ ⟨x, rfl, hx⟩
  | _ => simp [ensureFinite]

/-- Only an infinity or a NaN has no token. -/
theorem renderLiteral_eq_error_iff (hd : d ∈ Dialect.builtIn) {e : BuildError} :
    d.renderLiteral l = .error e ↔ e = .nonFiniteNumber ∧ ∃ x, l = .float x ∧ ¬x.isFinite := by
  have husual := (Dialect.regular_of_mem_builtIn hd).renderLiteral_usual
  rw [← ensureFinite_eq_error_iff, Dialect.renderLiteral, husual]
  exact bind_pure_eq_error_iff

/-- How a literal is recovered from its token. -/
structure ReadsBack (d : Dialect) (l : Literal) : Prop where
  /-- Only an infinity or a NaN has no token. -/
  error_iff : ∀ e, d.renderLiteral l = .error e ↔
    e = .nonFiniteNumber ∧ ∃ x, l = .float x ∧ ¬x.isFinite
  /-- The token denotes the literal and nothing else. -/
  denotes_iff : ∀ s, d.renderLiteral l = .ok s → ∀ l', l'.Denotes d s.toList ↔ l' = l
  /-- No other literal has the same token. -/
  unique : ∀ s l', l' ≠ .default → d.renderLiteral l = .ok s → d.renderLiteral l' = .ok s →
    l' = l
  /-- A floating-point number is always marked as one. -/
  marked : ∀ x s, l = .float x → d.renderLiteral l = .ok s → '.' ∈ s.toList ∨ 'e' ∈ s.toList
  /-- A whole number never is. -/
  unmarked : ∀ n s, l = .integer n → d.renderLiteral l = .ok s → '.' ∉ s.toList ∧ 'e' ∉ s.toList
  /-- No decimal with fewer digits than the one that is written is rounded to the number. -/
  shortest : ∀ x s, l = .float x → x.magnitude ≠ 0 → d.renderLiteral l = .ok s →
    ∃ c : Decimal, s.toList = signed x.isNegative c.text ∧
      ∀ c' : Decimal, x.IsNearest c'.value → c.length ≤ c'.length

/-- **Reading literals back.** In every built-in dialect the token of a literal tells which literal
it is. -/
theorem tokens_read_back (hd : d ∈ Dialect.builtIn) (hl : l ≠ .default) : l.ReadsBack d where
  error_iff _ := renderLiteral_eq_error_iff hd
  denotes_iff s hs l' := by
    obtain ⟨hfinite, rfl⟩ := (renderLiteral_eq_ok_iff hd).mp hs
    have hself := denotes_usualText hd ⟨hl, hfinite⟩
    exact ⟨fun h ↦ denotes_unique h hself, fun h ↦ h ▸ hself⟩
  unique s l' hl' hs hs' := by
    obtain ⟨hfinite, rfl⟩ := (renderLiteral_eq_ok_iff hd).mp hs
    obtain ⟨hfinite', heq⟩ := (renderLiteral_eq_ok_iff hd).mp hs'
    have hother := denotes_usualText hd ⟨hl', hfinite'⟩
    rw [heq] at hother
    exact denotes_unique hother (denotes_usualText hd ⟨hl, hfinite⟩)
  marked x s hx hs := by
    subst hx
    obtain ⟨hfinite, rfl⟩ := (renderLiteral_eq_ok_iff hd).mp hs
    obtain ⟨cs, v, heq, hcs, -⟩ := denotes_usualText hd ⟨hl, hfinite⟩
    rw [heq]
    exact hcs.marked.imp (mem_signed · _) (mem_signed · _)
  unmarked n s hn hs := by
    subst hn
    obtain ⟨hfinite, rfl⟩ := (renderLiteral_eq_ok_iff hd).mp hs
    have hself : IsInteger _ _ := denotes_usualText hd ⟨hl, hfinite⟩
    exact ⟨hself.notMem (Or.inl rfl), hself.notMem (Or.inr rfl)⟩
  shortest x s hx hne hs := by
    subst hx
    obtain ⟨hfinite, rfl⟩ := (renderLiteral_eq_ok_iff hd).mp hs
    have hx : x.isFinite := IsPlain.isFinite ⟨hl, hfinite⟩
    refine ⟨x.shortest, ?_, fun c' hc' ↦ ?_⟩
    · have htext := Binary64.toList_text hx
      rwa [Binary64.unsignedText, if_neg hne] at htext
    · have hvalue : 0 ≤ c'.value := by
        rw [Decimal.value]
        positivity
      exact Binary64.length_shortest_le hne (hc'.holds hx hvalue)

/-- The number next to zero from below, which has the longest exponent. -/
def leastNegative : Binary64 :=
  ⟨0x8000000000000001⟩

theorem tokens_read_back_least :
    Dialect.mysql ∈ Dialect.builtIn ∧ float leastNegative ≠ .default ∧
      leastNegative.isFinite ∧ leastNegative.magnitude ≠ 0 ∧
      Dialect.mysql.renderLiteral (.float leastNegative) = .ok "-5e-324" ∧
      (float leastNegative).ReadsBack .mysql ∧ (string "it's").ReadsBack .mysql ∧
      Dialect.mysql.renderLiteral (.string "it's") = .ok "'it''s'" := by
  have hmysql : Dialect.mysql ∈ Dialect.builtIn := by simp [Dialect.builtIn]
  exact ⟨hmysql, by simp, by decide, by decide, by decide +kernel,
    tokens_read_back hmysql (by simp), tokens_read_back hmysql (by simp), by decide +kernel⟩

end Literal

end SqlBuilder
