import SqlBuilder.Dialect.BuiltIn
import SqlBuilder.Proofs.Number.Numeral
import SqlBuilder.Proofs.Pieces.Fragment
import SqlBuilder.Proofs.Reading.Quoted
import SqlBuilder.Proofs.Success
import SqlBuilder.Text.DottedName

/-!
# What dialects write outside quotes

Everything that a builder or a dialect writes on its own account is made of few characters, and
neither a quote nor a backslash is among them. A dialect is regular if it keeps to them, also where
it spells a custom type, if the quote of its names is a character that nothing else uses, and if it
has no rules of its own but perhaps one for texts, which its readers undo. The built-in dialects are
regular.
-/

namespace SqlBuilder

/-- A character of the texts that builders write: keywords, operators, function names and types. -/
def isTextChar (c : Char) : Bool :=
  c.isAlphanum || c == '_' || c == ' ' || c == '(' || c == ')' || c == ',' || c == '.' || c == '='
    || c == '!' || c == '<' || c == '>'

/-- A character that may stand outside quotes. Besides texts these are numerals, the wildcard and
placeholders. -/
def isOuterChar (c : Char) : Bool :=
  isTextChar c || c == '-' || c == '*' || c == '$' || c == '?'

/-- A text that a builder may write. -/
def isText (s : String) : Bool :=
  s.toList.all isTextChar

/-- The character ends whatever a dialect spells. -/
def isBreak (c : Char) : Bool :=
  c == ' ' || c == ',' || c == ')' || c == '.'

theorem isTextChar_of_isAlphanum {c : Char} (h : c.isAlphanum) : isTextChar c := by
  simp [isTextChar, h]

theorem isAlphanum_of_isDigit {c : Char} (h : c.isDigit) : c.isAlphanum := by
  simp [Char.isAlphanum, h]

theorem isOuterChar_of_isTextChar {c : Char} (h : isTextChar c) : isOuterChar c := by
  simp [isOuterChar, h]

theorem isOuterChar_of_isNumeralChar {c : Char} (h : isNumeralChar c) : isOuterChar c := by
  simp only [isNumeralChar, Bool.or_eq_true, beq_iff_eq] at h
  obtain ((h | rfl) | rfl) | rfl := h
  · exact isOuterChar_of_isTextChar (isTextChar_of_isAlphanum (isAlphanum_of_isDigit h))
  · rfl
  · rfl
  · rfl

theorem isText_of_isValidToken {token : String} (h : DataType.isValidToken token) :
    isText token := by
  rw [DataType.isValidToken, Bool.and_eq_true] at h
  rw [isText, List.all_eq_true]
  intro c hc
  have hchar := List.all_eq_true.mp h.2 c hc
  simp only [DataType.isTokenChar, Bool.or_eq_true] at hchar
  obtain ((((h | h) | h) | h) | h) | h := hchar <;> simp [isTextChar, h]

/-! ## Dotted names -/

theorem mem_splitAt {sep c : Char} {cs : List Char} (h : c ∈ cs) :
    c = sep ∨ ∃ w ∈ Text.splitAt sep cs, c ∈ w := by
  induction cs with
  | nil => simp at h
  | cons a cs ih =>
    rw [Text.splitAt]
    by_cases ha : a = sep
    · rw [if_pos ha]
      rcases List.mem_cons.mp h with rfl | h
      · exact Or.inl ha
      · refine (ih h).imp_right ?_
        rintro ⟨w, hw, hc⟩
        exact ⟨w, List.mem_cons_of_mem _ hw, hc⟩
    · rw [if_neg ha]
      rcases List.mem_cons.mp h with rfl | h
      · cases Text.splitAt sep cs with
        | nil => exact Or.inr ⟨[c], by simp, by simp⟩
        | cons w ws => exact Or.inr ⟨c :: w, by simp, by simp⟩
      · -- The first word of the rest is the one that grows.
        refine (ih h).imp_right ?_
        rintro ⟨w, hw, hc⟩
        cases hsplit : Text.splitAt sep cs with
        | nil => simp [hsplit] at hw
        | cons v vs =>
          rw [hsplit] at hw
          rcases List.mem_cons.mp hw with rfl | hw
          · exact ⟨a :: w, by simp, List.mem_cons_of_mem _ hc⟩
          · exact ⟨w, List.mem_cons_of_mem _ hw, hc⟩

theorem isWordChar_of_mem {w : List Char} (h : Text.isWord w) {c : Char} (hc : c ∈ w) :
    Text.isWordChar c := by
  cases w with
  | nil => simp at hc
  | cons a w =>
    rw [Text.isWord, Bool.and_eq_true] at h
    rcases List.mem_cons.mp hc with rfl | hc
    · have hstart := h.1
      simp only [Text.isWordStart, Bool.or_eq_true] at hstart
      obtain h | h := hstart <;> simp [Text.isWordChar, Char.isAlphanum, h]
    · exact List.all_eq_true.mp h.2 c hc

/-- A dotted name is made of word characters and points. -/
theorem mem_dottedName {name : String} (h : Text.isDottedName name) {c : Char}
    (hc : c ∈ name.toList) : c = '.' ∨ Text.isWordChar c := by
  refine (@mem_splitAt '.' c _ hc).imp_right ?_
  rintro ⟨w, hw, hcw⟩
  exact isWordChar_of_mem (List.all_eq_true.mp h w hw) hcw

theorem isText_of_isDottedName {name : String} (h : Text.isDottedName name) : isText name := by
  rw [isText, List.all_eq_true]
  intro c hc
  rcases mem_dottedName h hc with rfl | hword
  · rfl
  · simp only [Text.isWordChar, Bool.or_eq_true] at hword
    obtain h | h := hword <;> simp [isTextChar, h]

/-! ## Regular dialects -/

namespace Dialect

/-- A dialect that writes outside quotes only what can be read there. -/
structure Regular (d : Dialect) : Prop where
  /-- Names are quoted as usual. -/
  quoteIdentifier_usual : d.ownQuoteIdentifier = none
  /-- Placeholders are written as usual. -/
  placeholder_usual : d.ownPlaceholder = none
  /-- Literals are spelled as usual. -/
  renderLiteral_usual : d.ownRenderLiteral = none
  /-- A text is written by the rule that its readers undo. -/
  stringLiteral_eq : ∀ s, d.stringLiteral s = Reading.stringText d.escapesBackslash s
  /-- Nothing but a name is written with the quote of names. -/
  isOuterChar_quote : isOuterChar d.identifierQuote = false
  /-- Names and string literals can be told apart. -/
  quote_ne : d.identifierQuote ≠ '\''
  /-- The default is a word. -/
  default_word : d.defaultText ≠ "" ∧ d.defaultText.toList.all Char.isAlpha
  /-- The truth values are words. -/
  boolean_word : ∀ b, d.booleanText b ≠ "" ∧ (d.booleanText b).toList.all Char.isAlpha
  /-- A type is a text. -/
  isText_type : ∀ t s, d.resolveType t = .ok s → isText s
  /-- The keywords around a column whose type is changed are texts. -/
  isText_modify : ∀ form ∈ d.alterTable.modifyColumn,
    isText form.clause ∧ ∀ keyword ∈ form.typeKeyword, isText keyword

/-- The dialects that are known by name. -/
def builtIn : List Dialect :=
  [postgresql, mysql, sqlite]

/-! ## Words that dialects write -/

/-- What a literal other than a text is written with: a numeral, letters or the wildcard. -/
inductive LiteralWord : List Char → Prop
  | numeral {cs : List Char} (h : Numeral cs) : LiteralWord cs
  | letters {cs : List Char} (hne : cs ≠ []) (h : cs.all Char.isAlpha) : LiteralWord cs
  | wildcard : LiteralWord ['*']

theorem LiteralWord.isOuterChar {cs : List Char} (h : LiteralWord cs) :
    ∀ c ∈ cs, isOuterChar c := by
  intro c hc
  cases h with
  | numeral h => exact isOuterChar_of_isNumeralChar (h.chars c hc)
  | letters _ h =>
    have hletter := List.all_eq_true.mp h c hc
    exact isOuterChar_of_isTextChar (isTextChar_of_isAlphanum (by simp [Char.isAlphanum, hletter]))
  | wildcard =>
    obtain rfl := List.mem_singleton.mp hc
    rfl

theorem LiteralWord.undashed {cs : List Char} (h : LiteralWord cs) : Undashed cs := by
  cases h with
  | numeral h => exact h.undashed
  | letters _ h =>
    apply undashed_of_notMem
    intro hmem
    exact absurd (List.all_eq_true.mp h _ hmem) (by decide)
  | wildcard => exact List.IsChain.singleton _

theorem LiteralWord.ne_nil {cs : List Char} (h : LiteralWord cs) : cs ≠ [] := by
  cases h with
  | numeral h =>
    obtain ⟨c, hhead, -⟩ := h.head
    rintro rfl
    simp at hhead
  | letters hne _ => exact hne
  | wildcard => simp

/-- A dialect without a rule for literals spells them as usual. -/
theorem literalText_eq_usualText {d : Dialect} (hd : d.ownRenderLiteral = none) (l : Literal) :
    d.literalText l = d.usualText l := by
  rw [literalText, hd]

theorem Regular.literalText_eq {d : Dialect} (hd : d.Regular) (l : Literal) :
    d.literalText l = d.usualText l :=
  literalText_eq_usualText hd.renderLiteral_usual l

theorem Regular.literalWord {d : Dialect} (hd : d.Regular) {l : Literal}
    (hl : l.ensureFinite = .ok ()) (hstring : ∀ s, l ≠ .string s) :
    LiteralWord (d.literalText l).toList := by
  rw [hd.literalText_eq]
  cases l with
  | default => exact .letters (by simpa [usualText] using hd.default_word.1) hd.default_word.2
  | null =>
    have hletters : "NULL".toList.all Char.isAlpha := by decide
    exact .letters (by simp [usualText]) hletters
  | string s => exact absurd rfl (hstring s)
  | integer n => exact .numeral (numeral_int _)
  | float x =>
    have hfinite : x.isFinite := by
      by_contra h
      simp [Literal.ensureFinite, h] at hl
    exact .numeral (Binary64.numeral_text hfinite)
  | boolean b =>
    exact .letters (by simpa [usualText] using (hd.boolean_word b).1) (hd.boolean_word b).2
  | all =>
    rw [usualText, show "*".toList = ['*'] by simp]
    exact .wildcard

theorem Regular.isBreak_quote {d : Dialect} (hd : d.Regular) :
    isBreak d.identifierQuote = false := by
  rw [Bool.eq_false_iff]
  intro hbreak
  have hquote := hd.isOuterChar_quote
  simp only [isBreak, Bool.or_eq_true, beq_iff_eq] at hbreak
  obtain ((h | h) | h) | h := hbreak <;> simp [h, isOuterChar, isTextChar] at hquote

/-- A placeholder is a question mark, or a dollar sign and digits. -/
theorem toList_placeholder {d : Dialect} (hd : d.ownPlaceholder = none) (position : Nat) :
    (d.placeholder position).toList = match d.placeholderStyle with
      | .question => ['?']
      | .dollar => '$' :: Nat.toDigits 10 position := by
  rw [placeholder, hd]
  dsimp only
  cases d.placeholderStyle with
  | question => simp
  | dollar => simp

/-- A placeholder is one mark, and digits behind it if it is numbered. -/
theorem mem_placeholder {d : Dialect} (hd : d.ownPlaceholder = none) {position : Nat} {c : Char}
    (hc : c ∈ (d.placeholder position).toList) : c = '?' ∨ c = '$' ∨ c.isDigit := by
  rw [toList_placeholder hd] at hc
  cases hstyle : d.placeholderStyle with
  | question =>
    rw [hstyle] at hc
    exact Or.inl (List.mem_singleton.mp hc)
  | dollar =>
    rw [hstyle] at hc
    exact Or.inr ((List.mem_cons.mp hc).imp_right isDigit_of_mem_toDigits)

theorem isOuterChar_of_mem_placeholder {d : Dialect} (hd : d.ownPlaceholder = none)
    (position : Nat) : ∀ c ∈ (d.placeholder position).toList, isOuterChar c := by
  intro c hc
  rcases mem_placeholder hd hc with rfl | rfl | hdigit
  · decide
  · decide
  · exact isOuterChar_of_isNumeralChar (isNumeralChar_of_isDigit hdigit)

/-! ## The built-in dialects -/

theorem isText_varchar (n : Nat) : isText ("VARCHAR(" ++ toString n ++ ")") := by
  have hdigits : (Nat.toDigits 10 n).all isTextChar := List.all_eq_true.mpr fun c hc ↦
    isTextChar_of_isAlphanum (isAlphanum_of_isDigit (isDigit_of_mem_toDigits hc))
  have hname : "VARCHAR(".toList.all isTextChar := by decide
  rw [isText, String.toList_append, String.toList_append, List.all_append, List.all_append, hname,
    Nat.toString_eq_ofList_toDigits, String.toList_ofList, hdigits]
  rfl

/-- A type that is written is one that the dialect has, and a custom one is harmless. -/
theorem typeName_of_resolveType {d : Dialect} {t : DataType} {s : String}
    (h : d.resolveType t = .ok s) :
    d.typeName t = some s ∧ ∀ token, t = .custom token → DataType.isValidToken token := by
  have hvalid : ∀ token, t = .custom token → DataType.isValidToken token := by
    rintro token rfl
    by_contra hinvalid
    simp [resolveType, hinvalid] at h
  refine ⟨?_, hvalid⟩
  cases hname : d.typeName t with
  | none => cases t <;> simp_all [resolveType]
  | some spelling => cases t <;> simp_all [resolveType]

/-- A dialect spells its types in texts if it does so for every type that is not custom and writes a
custom type as its token. -/
theorem isText_resolveType {d : Dialect}
    (hcustom : ∀ token, d.typeName (.custom token) = some token)
    (htype : ∀ t s, (∀ token, t ≠ .custom token) → d.typeName t = some s → isText s) (t : DataType)
    (s : String) (h : d.resolveType t = .ok s) : isText s := by
  obtain ⟨hname, hvalid⟩ := typeName_of_resolveType h
  by_cases ht : ∃ token, t = .custom token
  · obtain ⟨token, rfl⟩ := ht
    obtain rfl := Option.some.inj ((hcustom token).symm.trans hname)
    exact isText_of_isValidToken (hvalid token rfl)
  · exact htype t s (not_exists.mp ht) hname

theorem regular_postgresql : postgresql.Regular where
  quoteIdentifier_usual := rfl
  placeholder_usual := rfl
  renderLiteral_usual := rfl
  stringLiteral_eq _ := rfl
  isOuterChar_quote := by decide
  quote_ne := by decide
  default_word := by decide
  boolean_word := by decide
  isText_type := by
    apply isText_resolveType (fun _ ↦ rfl)
    intro t s hcustom ht
    cases t with
    | custom token => exact absurd rfl (hcustom token)
    | varchar n => exact Option.some.inj ht ▸ isText_varchar _
    | _ => exact Option.some.inj ht ▸ by decide
  isText_modify := by decide

theorem regular_mysql : mysql.Regular where
  quoteIdentifier_usual := rfl
  placeholder_usual := rfl
  renderLiteral_usual := rfl
  stringLiteral_eq _ := rfl
  isOuterChar_quote := by decide
  quote_ne := by decide
  default_word := by decide
  boolean_word := by decide
  isText_type := by
    apply isText_resolveType (fun _ ↦ rfl)
    intro t s hcustom ht
    cases t with
    | custom token => exact absurd rfl (hcustom token)
    | varchar n => exact Option.some.inj ht ▸ isText_varchar _
    | uuid => simp [mysql] at ht
    | _ => exact Option.some.inj ht ▸ by decide
  isText_modify := by decide

theorem regular_sqlite : sqlite.Regular where
  quoteIdentifier_usual := rfl
  placeholder_usual := rfl
  renderLiteral_usual := rfl
  stringLiteral_eq _ := rfl
  isOuterChar_quote := by decide
  quote_ne := by decide
  default_word := by decide
  boolean_word := by decide
  isText_type := by
    apply isText_resolveType (fun _ ↦ rfl)
    intro t s hcustom ht
    cases t with
    | custom token => exact absurd rfl (hcustom token)
    | uuid | json => simp [sqlite] at ht
    | _ => exact Option.some.inj ht ▸ by decide
  isText_modify := by decide

theorem regular_of_mem_builtIn {d : Dialect} (h : d ∈ builtIn) : d.Regular := by
  simp only [builtIn, List.mem_cons, List.not_mem_nil, or_false] at h
  obtain rfl | rfl | rfl := h
  · exact regular_postgresql
  · exact regular_mysql
  · exact regular_sqlite

end Dialect

end SqlBuilder
