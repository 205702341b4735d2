import SqlBuilder.Proofs.Spelling.Expr
import SqlBuilder.Proofs.Symbols.Basic

/-!
# The symbols of expressions

An expression is written with one symbol for each name, literal and bound value. A call is a word
that starts it, its arguments with commas between them, and what closes it; so every call ends where
it seems to, whatever its arguments are.
-/

namespace SqlBuilder

open Reading SqlBuilder.Symbol

variable {d : Dialect} {f : Fragment} {place : Place}

/-! ## Words -/

theorem isWordPart_of_class {p : Char → Bool} {c : Char} (hc : p c)
    (hp : [' ', ',', '(', ')'].any p = false) : isWordPart c := by
  have hne : ∀ a ∈ [' ', ',', '(', ')'], c ≠ a := fun a ha ↦
    ne_of_class hc (by simpa using List.any_eq_false.mp hp a ha)
  simpa [isWordPart, and_assoc] using hne

theorem Dialect.LiteralWord.isWordPart {cs : List Char} (h : LiteralWord cs) :
    ∀ c ∈ cs, isWordPart c := by
  intro c hc
  cases h with
  | numeral h => exact isWordPart_of_class (h.chars c hc) (by decide)
  | letters _ h => exact isWordPart_of_class (List.all_eq_true.mp h c hc) (by decide)
  | wildcard =>
    obtain rfl := List.mem_singleton.mp hc
    rfl

theorem Dialect.LiteralWord.not_isPlaceholder {cs : List Char} (h : LiteralWord cs) :
    isPlaceholder (.word cs) = false := by
  have hmark {p : Char → Bool} {c : Char} {cs : List Char} (hc : p c)
      (hp : p '?' = false ∧ p '$' = false) : isPlaceholder (.word (c :: cs)) = false := by
    simp [isPlaceholder, ne_of_class hc hp.1, ne_of_class hc hp.2]
  cases h with
  | numeral h =>
    obtain ⟨c, hhead, -⟩ := h.head
    obtain ⟨cs, rfl⟩ := List.head?_eq_some_iff.mp hhead
    exact hmark (h.chars c List.mem_cons_self) (by decide)
  | letters hne h =>
    obtain ⟨c, cs, rfl⟩ := List.exists_cons_of_ne_nil hne
    exact hmark (List.all_eq_true.mp h c List.mem_cons_self) (by decide)
  | wildcard => rfl

theorem isWordPart_placeholder (hd : d.ownPlaceholder = none) (position : Nat) :
    ∀ c ∈ (d.placeholder position).toList, isWordPart c := by
  intro c hc
  rcases Dialect.mem_placeholder hd hc with rfl | rfl | hdigit
  · decide
  · decide
  · exact isWordPart_of_class hdigit (by decide)

theorem isWordPart_dottedName {name : String} (h : Text.isDottedName name) :
    ∀ c ∈ name.toList, isWordPart c := by
  intro c hc
  rcases mem_dottedName h hc with rfl | hword
  · rfl
  · exact isWordPart_of_class hword (by decide)

/-! ## Expressions -/

/-- The token of a literal. -/
def Literal.token (d : Dialect) : Literal → Token
  | .string s => .string s
  | l => .word (d.usualText l).toList

theorem Literal.token_of_ne_string {l : Literal} (h : ∀ s, l ≠ .string s) :
    l.token d = .word (d.usualText l).toList := by
  cases l with
  | string s => exact absurd rfl (h s)
  | _ => rfl

/-- The symbols of a column. -/
def ColumnRef.symbols (c : ColumnRef) : List Symbol :=
  match c.table with
  | none => [.token (.name c.name)]
  | some table => [.token (.name table), .word ".", .token (.name c.name)]

mutual

/-- The symbols of an expression. -/
def Expr.symbols (d : Dialect) : Expr → List Symbol
  | .column c => c.symbols
  | .literal l => [.token (l.token d)]
  | .bind v => [.value v]
  | .call function arguments =>
    .token (.call function.toList)
      :: (separated (.token .comma) (Expr.symbolsAll d arguments) ++ [.token .closing])

/-- The symbols of each of the expressions. -/
def Expr.symbolsAll (d : Dialect) : List Expr → List (List Symbol)
  | [] => []
  | e :: es => e.symbols d :: Expr.symbolsAll d es

end

theorem Expr.symbolsAll_eq_map (es : List Expr) : symbolsAll d es = es.map (symbols d) := by
  induction es with
  | nil => rfl
  | cons e es ih => rw [symbolsAll, ih, List.map_cons]

theorem Fragment.Writes.bind (hd : d.ownPlaceholder = none) (v : Value) :
    Fragment.Writes d [.bind v] [.value v] := by
  refine ⟨fun before rest hrest ↦ ?_, rfl, Without.value v⟩
  have hne : (d.placeholder (before + 1)).toList ≠ [] := by
    rw [Dialect.toList_placeholder hd]
    cases d.placeholderStyle <;> simp
  simp only [regions_bind, regions_nil, List.append_nil]
  exact tokens_word hne (isWordPart_placeholder hd _) hrest

theorem Literal.writes (hd : d.Regular) {l : Literal} (hl : l.ensureFinite = .ok ()) :
    Fragment.Writes d [.literal l] [.token (l.token d)] := by
  by_cases hstring : ∃ s, l = .string s
  · obtain ⟨s, rfl⟩ := hstring
    exact Fragment.Writes.of_texts [.string s] rfl (fun _ _ _ ↦ rfl) (by simp [isPlaceholder])
  · rw [not_exists] at hstring
    have hword := hd.literalWord hl hstring
    rw [hd.literalText_eq] at hword
    rw [token_of_ne_string hstring]
    refine Fragment.Writes.of_texts [_] rfl ?_ (by simpa using hword.not_isPlaceholder)
    intro before rest hrest
    rw [Fragment.regions_literal, Piece.regions_literal hstring, hd.literalText_eq,
      Fragment.regions_nil, List.append_nil]
    exact tokens_word hword.ne_nil hword.isWordPart hrest

theorem ColumnRef.writes {c : ColumnRef} (h : c.fragment = .ok f) : f.Writes d c.symbols := by
  obtain ⟨-, hf⟩ := ColumnRef.fragment_eq_ok_iff.mp h
  rw [symbols]
  cases htable : c.table with
  | none =>
    rw [htable] at hf
    exact hf ▸ Fragment.Writes.name c.name
  | some table =>
    rw [htable] at hf
    obtain ⟨-, rfl⟩ := hf
    refine Fragment.Writes.of_texts [.name table, .word ['.'], .name c.name] rfl ?_
      (by simp [isPlaceholder])
    intro before rest _
    simp [tokens, tokensFrom, QuotedText.token, finished]

theorem Expr.writes (hd : d.Regular) {e : Expr} (h : e.fragment d place = .ok f) :
    f.Writes d (e.symbols d) := by
  induction e using Expr.induction generalizing place f with
  | column c => exact ColumnRef.writes (fragment_column_eq_ok_iff.mp h).2
  | literal l =>
    obtain ⟨-, hfinite, rfl⟩ := (Literal.fragment_eq_ok_iff_of_usual hd.renderLiteral_usual).mp h
    exact Literal.writes hd hfinite
  | bind v =>
    obtain rfl := Except.ok.inj h
    exact Fragment.Writes.bind hd.placeholder_usual v
  | call function arguments ih =>
    obtain ⟨hne, hdotted, fs, hfs, rfl⟩ := fragment_call_eq_ok_iff.mp h
    have harguments : List.Forall₂ (Fragment.Writes d) fs (symbolsAll d arguments) := by
      rw [symbolsAll_eq_map]
      exact forall₂_map_of_forall₂ hfs fun a ha f hf ↦ ih a ha hf
    have hclosed : Fragment.Writes d (Fragment.commaList fs ++ [.text ")"])
        (separated (.token .comma) (symbolsAll d arguments) ++ [.token .closing]) :=
      (Fragment.Writes.commaList harguments).closed
    -- The name and the parenthesis behind it are one token.
    refine ⟨fun before rest hrest ↦ ?_, ?_, ?_⟩
    · have hname : function.toList ≠ [] := by simpa using hne
      rw [symbols, Fragment.regions_text, Fragment.regions_text, show "(".toList = ['('] by simp,
        List.append_assoc, List.append_assoc, plainly_cons, plainly_nil, List.cons_append,
        tokens_call hname (isWordPart_dottedName hdotted), List.nil_append,
        hclosed.tokens_regions _ _ hrest]
      rfl
    · exact hclosed.values_eq
    · intro t ht
      rcases List.mem_cons.mp ht with ht | ht
      · obtain rfl := Symbol.token.inj ht
        rfl
      · exact hclosed.unmistakable t ht

theorem Expr.writes_of_forall₂ (hd : d.Regular) {es : List Expr} {fs : List Fragment}
    (h : List.Forall₂ (fun e f ↦ e.fragment d place = .ok f) es fs) :
    List.Forall₂ (Fragment.Writes d) fs (es.map (symbols d)) :=
  forall₂_map_of_forall₂ h fun _ _ _ hf ↦ writes hd hf

end SqlBuilder
