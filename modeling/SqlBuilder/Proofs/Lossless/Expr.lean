import SqlBuilder.Proofs.Lossless.Legible
import SqlBuilder.Proofs.Lossless.Literal

/-!
# Expressions are legible

The symbol that an expression begins with shows its shape, and it is none that could end a list or
begin an option in front of one. A literal is told by its token, a bound value by its symbol and a
column by its names; a call is read up to the parenthesis that closes its arguments. A column's
default stands in no expression but a value to insert, so it is left out here.
-/

namespace SqlBuilder

open Reading SqlBuilder.Symbol

variable {d : Dialect}

/-! ## What an operand begins with -/

/-- A symbol that no expression begins with. -/
def Symbol.isForeign : Symbol → Bool
  | .token .opening | .token .closing | .token .comma => true
  | .token (.word w) => w == "NOT".toList || w == "DISTINCT".toList
  | _ => false

/-- A literal is no word but a numeral and the fixed ones. -/
theorem Literal.token_ne_word (hd : d ∈ Dialect.builtIn) {l : Literal} (hl : l.IsPlain) {w : String}
    (hw : ∀ s ∈ ["NULL", "*", "TRUE", "FALSE"], w ≠ s)
    (hhead : w.toList.head?.any (fun c ↦ c.isDigit || c == '-') = false) :
    l.token d ≠ .word w.toList := by
  have hfixed : ∀ s ∈ ["NULL", "*", "TRUE", "FALSE"], Token.word s.toList ≠ .word w.toList := by
    intro s hs
    rw [ne_eq, Token.word.injEq, String.toList_inj]
    exact (hw s hs).symm
  have hnumeral {cs : List Char} (h : Numeral cs) : Token.word cs ≠ .word w.toList := by
    rw [ne_eq, Token.word.injEq]
    exact ne_of_numeral h.head hhead
  cases l with
  | default => exact absurd rfl hl.1
  | null => exact hfixed "NULL" (by simp)
  | string s => simp [token]
  | integer n => exact hnumeral (numeral_int _)
  | float x => exact hnumeral (Binary64.numeral_text hl.isFinite)
  | boolean b =>
    rw [token_of_ne_string (by simp), Dialect.usualText, booleanText_of_mem_builtIn hd]
    cases b with
    | false => exact hfixed "FALSE" (by simp)
    | true => exact hfixed "TRUE" (by simp)
  | all => exact hfixed "*" (by simp)

theorem Literal.not_isForeign (hd : d ∈ Dialect.builtIn) {l : Literal} (hl : l.IsPlain) :
    (Symbol.token (l.token d)).isForeign = false := by
  by_cases hstring : ∃ s, l = .string s
  · obtain ⟨s, rfl⟩ := hstring
    rfl
  · have hnot := token_ne_word hd hl (w := "NOT") (by decide) (by decide)
    have hdistinct := token_ne_word hd hl (w := "DISTINCT") (by decide) (by decide)
    rw [token_of_ne_string (not_exists.mp hstring), ne_eq, Token.word.injEq] at hnot hdistinct
    rw [token_of_ne_string (not_exists.mp hstring), Symbol.isForeign, Bool.or_eq_false_iff]
    exact ⟨beq_false_of_ne hnot, beq_false_of_ne hdistinct⟩

namespace Expr

/-- The expression can be written in a place where no default can. -/
def IsWritable (d : Dialect) (e : Expr) : Prop :=
  ∃ place f, place ≠ Place.insertValue ∧ e.fragment d place = .ok f

theorem isPlain_of_isWritable (hd : d ∈ Dialect.builtIn) {l : Literal}
    (h : (literal l).IsWritable d) : l.IsPlain := by
  obtain ⟨place, f, hplace, hf⟩ := h
  have husual := (Dialect.regular_of_mem_builtIn hd).renderLiteral_usual
  obtain ⟨hallowed, hfinite, -⟩ := (Literal.fragment_eq_ok_iff_of_usual husual).mp hf
  refine ⟨?_, hfinite⟩
  rintro rfl
  cases place <;> simp_all [Literal.ensureAllowed]

theorem isWritable_of_mem {function : String} {arguments : List Expr}
    (h : (call function arguments).IsWritable d) : ∀ a ∈ arguments, a.IsWritable d := by
  obtain ⟨place, f, -, hf⟩ := h
  obtain ⟨-, -, fs, hfs, -⟩ := fragment_call_eq_ok_iff.mp hf
  intro a ha
  obtain ⟨f, hf⟩ := exists_of_forall₂ hfs a ha
  exact ⟨.argument, f, by simp, hf⟩

/-- An expression begins with a symbol that is its own. -/
theorem exists_symbols_eq_cons (hd : d ∈ Dialect.builtIn) {e : Expr} (he : e.IsWritable d) :
    ∃ s ss, e.symbols d = s :: ss ∧ s.isForeign = false := by
  cases e with
  | column c =>
    rw [symbols, ColumnRef.symbols]
    cases c.table with
    | none => exact ⟨_, _, rfl, rfl⟩
    | some table => exact ⟨_, _, rfl, rfl⟩
  | bind v => exact ⟨_, _, rfl, rfl⟩
  | call function arguments => exact ⟨_, _, rfl, rfl⟩
  | literal l => exact ⟨_, _, rfl, Literal.not_isForeign hd (isPlain_of_isWritable hd he)⟩

/-- What is written in front of a rest tells columns apart. -/
theorem column_inj {c c' : ColumnRef} {r r' : List Symbol} (hr : Unpointed r) (hr' : Unpointed r')
    (h : c.symbols ++ r = c'.symbols ++ r') : c = c' ∧ r = r' := by
  obtain ⟨table, name⟩ := c
  obtain ⟨table', name'⟩ := c'
  cases table with
  | none =>
    cases table' with
    | none => simpa [ColumnRef.symbols] using h
    | some table' =>
      have hpoint : r = word "." :: (.token (.name name') :: r') := by
        simpa [ColumnRef.symbols] using (List.cons.inj h).2
      exact absurd (by rw [hpoint]; rfl) hr
  | some table =>
    cases table' with
    | none =>
      have hpoint : word "." :: (.token (.name name) :: r) = r' := by
        simpa [ColumnRef.symbols] using (List.cons.inj h).2
      exact absurd (by rw [← hpoint]; rfl) hr'
    | some table' => simpa [ColumnRef.symbols, and_assoc] using h

/-- Arguments are found again up to the parenthesis behind them. -/
theorem arguments_inj (hd : d ∈ Dialect.builtIn) {as bs : List Expr}
    (has : ∀ a ∈ as, Legible (symbols d) (IsWritable d) a) (hwritable : ∀ a ∈ as, a.IsWritable d)
    (hbs : ∀ b ∈ bs, b.IsWritable d) {r r' : List Symbol}
    (h : separated (.token .comma) (as.map (symbols d)) ++ .token .closing :: r
      = separated (.token .comma) (bs.map (symbols d)) ++ .token .closing :: r') :
    as = bs ∧ r = r' := by
  -- An empty list shows in that the parenthesis follows directly.
  have hempty {es : List Expr} (hes : ∀ e ∈ es, e.IsWritable d) {t t' : List Symbol}
      (h : .token .closing :: t = separated (.token .comma) (es.map (symbols d)) ++ t') :
      es = [] := by
    cases es with
    | nil => rfl
    | cons e es =>
      obtain ⟨s, ss, hs, hown⟩ := exists_symbols_eq_cons hd (hes e List.mem_cons_self)
      rw [List.map_cons, separated_cons, hs] at h
      obtain rfl := (List.cons.inj h).1
      simp [Symbol.isForeign] at hown
  by_cases hnil : as = [] ∨ bs = []
  · have hboth : as = [] ∧ bs = [] := by
      rcases hnil with rfl | rfl
      · exact ⟨rfl, hempty hbs h⟩
      · exact ⟨hempty hwritable h.symm, rfl⟩
    obtain ⟨rfl, rfl⟩ := hboth
    exact ⟨rfl, (List.cons.inj h).2⟩
  · rw [not_or] at hnil
    exact closed_inj has hbs hnil.1 hnil.2 h

/-- The shapes of expressions, and that of no expression. -/
inductive Shape where
  | column | literal | bind | call | none

/-- The shape of an expression. -/
def shape : Expr → Shape
  | .column _ => .column
  | .literal _ => .literal
  | .bind _ => .bind
  | .call _ _ => .call

/-- The shape that the first symbol shows. -/
def shapeOf : List Symbol → Shape
  | .token (.name _) :: _ => .column
  | .token (.string _) :: _ => .literal
  | .token (.word _) :: _ => .literal
  | .value _ :: _ => .bind
  | .token (.call _) :: _ => .call
  | _ => .none

theorem shapeOf_symbols (e : Expr) (r : List Symbol) : shapeOf (e.symbols d ++ r) = e.shape := by
  cases e with
  | column c =>
    rw [symbols, ColumnRef.symbols]
    cases c.table with
    | none => rfl
    | some table => rfl
  | literal l => cases l <;> rfl
  | bind v => rfl
  | call function arguments => rfl

theorem shape_eq {a b : Expr} {r r' : List Symbol} (h : a.symbols d ++ r = b.symbols d ++ r') :
    a.shape = b.shape := by
  rw [← shapeOf_symbols a r, h, shapeOf_symbols]

/-- Expressions are legible. -/
theorem legible (hd : d ∈ Dialect.builtIn) {e : Expr} (he : e.IsWritable d) :
    Legible (symbols d) (IsWritable d) e := by
  -- The first symbol shows the shape, so only two expressions of the same shape are compared.
  induction e using Expr.induction with
  | column c =>
    intro b r r' _ hr hr' h
    have hshape := shape_eq h
    cases b with
    | column c' =>
      obtain ⟨rfl, hrest⟩ := column_inj hr hr' h
      exact ⟨rfl, hrest⟩
    | _ => simp [shape] at hshape
  | literal l =>
    intro b r r' hb _ _ h
    have hshape := shape_eq h
    cases b with
    | literal l' =>
      obtain ⟨htoken, hrest⟩ := List.cons.inj h
      have hsame := Literal.token_injective hd (isPlain_of_isWritable hd he)
        (isPlain_of_isWritable hd hb) (Symbol.token.inj htoken)
      exact ⟨by rw [hsame], hrest⟩
    | _ => simp [shape] at hshape
  | bind v =>
    intro b r r' _ _ _ h
    have hshape := shape_eq h
    cases b with
    | bind v' =>
      obtain ⟨hvalue, hrest⟩ := List.cons.inj h
      exact ⟨by rw [Symbol.value.inj hvalue], hrest⟩
    | _ => simp [shape] at hshape
  | call function arguments ih =>
    intro b r r' hb _ _ h
    have hshape := shape_eq h
    cases b with
    | call function' arguments' =>
      have harguments := isWritable_of_mem he
      have harguments' := isWritable_of_mem hb
      simp only [symbols, symbolsAll_eq_map, List.cons_append, List.append_assoc, List.cons.injEq,
        Symbol.token.injEq, Token.call.injEq, List.nil_append] at h
      obtain ⟨hfunction, hrest⟩ := h
      obtain ⟨rfl, hbehind⟩ := arguments_inj hd (fun a ha ↦ ih a ha (harguments a ha)) harguments
        harguments' hrest
      exact ⟨by rw [String.toList_inj.mp hfunction], hbehind⟩
    | _ => simp [shape] at hshape

end Expr

end SqlBuilder
