import SqlBuilder.Proofs.Lossless.Expr
import SqlBuilder.Proofs.Symbols.Statement

/-!
# Insertions, indexes and removals can be read back

The query that one of these statements gives determines the statement. The one exception concerns
insertions where a column's default has no keyword of its own and is spelled like the absent value:
there the two are the same value as far as the text goes, and nothing else is lost.

Rows and lists stand between parentheses, and a value in front of a comma or of a closing
parenthesis is legible, so a row ends where its parenthesis does, whatever its names, strings and
calls hold. The values of placeholders are put back before anything is taken apart.
-/

namespace SqlBuilder

open Reading SqlBuilder.Symbol

variable {d : Dialect}

/-! ## Values to insert -/

theorem Dialect.defaultText_of_mem_builtIn (hd : d ∈ Dialect.builtIn) :
    d = .sqlite ∧ d.defaultText = "NULL" ∨ d.defaultText = "DEFAULT" := by
  simp only [builtIn, List.mem_cons, List.not_mem_nil, or_false] at hd
  obtain rfl | rfl | rfl := hd
  · exact Or.inr rfl
  · exact Or.inr rfl
  · exact Or.inl ⟨rfl, rfl⟩

namespace Expr

/-- Two values to insert that no query tells apart: they are the same, or in the dialect without a
keyword for it one is the default and the other is the absent value. -/
def SameValue (d : Dialect) (e e' : Expr) : Prop :=
  e = e' ∨ d = .sqlite ∧ (e = .literal .default ∧ e' = .literal .null ∨
    e = .literal .null ∧ e' = .literal .default)

/-- The value that the text shows: a default that is spelled like the absent value is read as it. -/
def shown (d : Dialect) : Expr → Expr
  | .literal .default => if d.defaultText = "NULL" then .literal .null else .literal .default
  | e => e

theorem shown_of_ne {e : Expr} (h : e ≠ .literal .default) : e.shown d = e := by
  rw [shown]
  exact h

/-- What is shown is written with the same symbols. -/
theorem symbols_shown (e : Expr) : (e.shown d).symbols d = e.symbols d := by
  by_cases he : e = .literal .default
  · subst he
    rw [shown]
    split
    · next hnull => simp [symbols, Literal.token, Dialect.usualText, hnull]
    · rfl
  · rw [shown_of_ne he]

theorem sameValue_of_shown (hd : d ∈ Dialect.builtIn) {e e' : Expr} (h : e.shown d = e'.shown d) :
    e.SameValue d e' := by
  by_cases hsame : e = e'
  · exact Or.inl hsame
  · -- One of the two is the default, and it is shown as the other.
    obtain ⟨hsqlite, hnull⟩ | hdefault := Dialect.defaultText_of_mem_builtIn hd
    · refine Or.inr ⟨hsqlite, ?_⟩
      have hshown : (literal .default).shown d = .literal .null := by
        rw [shown, if_pos hnull]
      by_cases he : e = .literal .default
      · have he' : e' ≠ .literal .default := fun he' ↦ hsame (he.trans he'.symm)
        rw [he, hshown, shown_of_ne he'] at h
        exact Or.inl ⟨he, h.symm⟩
      · by_cases he' : e' = .literal .default
        · rw [he', hshown, shown_of_ne he] at h
          exact Or.inr ⟨h, he'⟩
        · rw [shown_of_ne he, shown_of_ne he'] at h
          exact absurd h hsame
    · have hshown (e : Expr) : e.shown d = e := by
        by_cases he : e = .literal .default
        · rw [he, shown, if_neg (by rw [hdefault]; decide)]
        · exact shown_of_ne he
      rw [hshown, hshown] at h
      exact absurd h hsame

/-- A value that shows all that it is: the default only if it has its own keyword. -/
def IsShown (d : Dialect) (e : Expr) : Prop :=
  e.IsWritable d ∨ e = .literal .default ∧ d.defaultText = "DEFAULT"

theorem isShown_of_fragment (hd : d ∈ Dialect.builtIn) {e : Expr} {f : Fragment}
    (h : e.fragment d .insertValue = .ok f) : (e.shown d).IsShown d := by
  by_cases he : e = .literal .default
  · subst he
    obtain ⟨-, hnull⟩ | hdefault := Dialect.defaultText_of_mem_builtIn hd
    · rw [shown, if_pos hnull]
      have husual := (Dialect.regular_of_mem_builtIn hd).renderLiteral_usual
      exact Or.inl ⟨.operand, [.literal .null], by simp,
        (Literal.fragment_eq_ok_iff_of_usual husual).mpr ⟨rfl, rfl, rfl⟩⟩
    · rw [shown, if_neg (by rw [hdefault]; decide)]
      exact Or.inr ⟨rfl, hdefault⟩
  · rw [shown_of_ne he]
    left
    cases e with
    | column c => exact absurd rfl (fragment_column_eq_ok_iff.mp h).1
    | bind v => exact ⟨.operand, f, by simp, h⟩
    | literal l =>
      obtain ⟨-, hfinite, hf⟩ := Literal.fragment_eq_ok_iff.mp h
      have hallowed : l.ensureAllowed .argument = .ok () := by
        cases l <;> simp_all [Literal.ensureAllowed]
      exact ⟨.argument, f, by simp, Literal.fragment_eq_ok_iff.mpr ⟨hallowed, hfinite, hf⟩⟩
    | call function arguments =>
      exact ⟨.operand, f, by simp, fragment_call_eq_ok_iff.mpr (fragment_call_eq_ok_iff.mp h)⟩

/-- A default with its own keyword is written like nothing else. -/
theorem symbols_default_ne (hd : d ∈ Dialect.builtIn) (hdefault : d.defaultText = "DEFAULT")
    {e : Expr} (he : e.IsWritable d) (r r' : List Symbol) :
    (literal .default).symbols d ++ r ≠ e.symbols d ++ r' := by
  intro h
  have hshape := shape_eq h
  cases e with
  | literal l =>
    have htoken : Literal.token d .default = .word "DEFAULT".toList := by
      rw [Literal.token_of_ne_string (by simp), Dialect.usualText, hdefault]
    have hsame := Symbol.token.inj (List.cons.inj h).1
    rw [htoken] at hsame
    exact Literal.token_ne_word hd (isPlain_of_isWritable hd he) (by decide) (by decide) hsame.symm
  | _ => simp [shape] at hshape

theorem legible_shown (hd : d ∈ Dialect.builtIn) {e : Expr} (he : e.IsShown d) :
    Legible (symbols d) (IsShown d) e := by
  intro b r r' hb hr hr' h
  rcases he with he | ⟨rfl, hdefault⟩
  · rcases hb with hb | ⟨rfl, hdefault⟩
    · exact legible hd he hb hr hr' h
    · exact absurd h.symm (symbols_default_ne hd hdefault he r' r)
  · rcases hb with hb | ⟨rfl, -⟩
    · exact absurd h (symbols_default_ne hd hdefault hb r r')
    · exact ⟨rfl, List.append_cancel_left h⟩

end Expr

/-! ## Insertions -/

namespace Insert

/-- Two insertions that no query tells apart. -/
structure Alike (d : Dialect) (s s' : Insert) : Prop where
  table : s.table = s'.table
  columns : s.columns = s'.columns
  /-- As many rows with as many values, and value by value the same. -/
  rows : List.Forall₂ (List.Forall₂ (Expr.SameValue d)) s.rows s'.rows

/-- The rows as the text shows them. -/
def shownRows (d : Dialect) (s : Insert) : List (List Expr) :=
  s.rows.map (List.map (Expr.shown d))

/-- A row that shows all that it is. -/
def IsShownRow (d : Dialect) (row : List Expr) : Prop :=
  row ≠ [] ∧ ∀ e ∈ row, e.IsShown d

theorem rowSymbols_shown (row : List Expr) :
    rowSymbols d (row.map (Expr.shown d)) = rowSymbols d row := by
  rw [rowSymbols, rowSymbols, List.map_map]
  exact congrArg _ (List.map_congr_left fun e _ ↦ Expr.symbols_shown e)

/-- The same rows are written if they are shown first. -/
theorem map_rowSymbols (s : Insert) :
    s.rows.map (rowSymbols d) = (s.shownRows d).map (rowSymbols d) := by
  rw [shownRows, List.map_map]
  exact List.map_congr_left fun row _ ↦ (rowSymbols_shown row).symm

theorem isShownRow_of_fragment (hd : d ∈ Dialect.builtIn) {s : Insert} {f : Fragment}
    (h : s.fragment d = .ok f) : ∀ row ∈ s.shownRows d, IsShownRow d row := by
  obtain ⟨hcolumns, -, hragged, -, -, rows, hrows, -⟩ := fragment_eq_ok_iff.mp h
  intro shown hshown
  obtain ⟨row, hrow, rfl⟩ := List.mem_map.mp hshown
  constructor
  · have hlength := raggedRow?_eq_none_iff.mp hragged row hrow
    rw [ne_eq, List.map_eq_nil_iff, ← List.length_eq_zero_iff, hlength, List.length_eq_zero_iff]
    exact hcolumns
  · intro e' he'
    obtain ⟨e, he, rfl⟩ := List.mem_map.mp he'
    obtain ⟨g, hg⟩ := exists_of_forall₂ hrows row hrow
    obtain ⟨fs, hfs, -⟩ := rowFragment_eq_ok_iff.mp hg
    obtain ⟨k, hk⟩ := exists_of_forall₂ hfs e he
    exact Expr.isShown_of_fragment hd hk

theorem legible_row (hd : d ∈ Dialect.builtIn) {row : List Expr} (hrow : IsShownRow d row) :
    Legible (rowSymbols d) (IsShownRow d) row := by
  intro other r r' hother _ _ h
  simp only [rowSymbols, listed, List.cons_append, List.append_assoc, List.cons.injEq, true_and,
    List.nil_append] at h
  exact closed_inj (fun e he ↦ Expr.legible_shown hd (hrow.2 e he)) hother.2 hrow.1 hother.1 h

/-- An insertion is found again in its symbols. -/
theorem alike_of_symbols (hd : d ∈ Dialect.builtIn) {s s' : Insert} {f f' : Fragment}
    (hs : s.fragment d = .ok f) (hs' : s'.fragment d = .ok f') (h : s.symbols d = s'.symbols d) :
    s.Alike d s' := by
  obtain ⟨hcolumns, hrows, -⟩ := fragment_eq_ok_iff.mp hs
  obtain ⟨hcolumns', hrows', -⟩ := fragment_eq_ok_iff.mp hs'
  simp only [symbols, listed, Symbol.names, List.cons_append, List.append_assoc, List.cons.injEq,
    Symbol.token.injEq, Token.name.injEq, List.nil_append, true_and] at h
  obtain ⟨htable, hbehind⟩ := h
  obtain ⟨hnames, hvalues⟩ := closed_inj (fun n _ ↦ Symbol.legible_name n) (fun _ _ ↦ trivial)
    hcolumns hcolumns' hbehind
  have hlist := (List.cons.inj hvalues).2
  rw [map_rowSymbols, map_rowSymbols] at hlist
  have hnone : Unpointed ([] : List Symbol) := by
    simp [Unpointed]
  have hshown := isShownRow_of_fragment hd hs
  obtain ⟨hsame, -⟩ := separated_inj (by simp [word])
    (fun row hrow ↦ legible_row hd (hshown row hrow)) (isShownRow_of_fragment hd hs')
    (by simpa [shownRows] using hrows) (by simpa [shownRows] using hrows') hnone hnone (by simp)
    (by simp) (congrArg (· ++ []) hlist)
  refine ⟨htable, hnames, ?_⟩
  rw [shownRows, shownRows, ← List.forall₂_eq_eq_eq, List.forall₂_map_left_iff,
    List.forall₂_map_right_iff] at hsame
  refine hsame.imp fun row row' hvalue ↦ ?_
  rw [← List.forall₂_eq_eq_eq, List.forall₂_map_left_iff, List.forall₂_map_right_iff] at hvalue
  exact hvalue.imp fun e e' ↦ Expr.sameValue_of_shown hd

end Insert

/-! ## Indexes and removals -/

/-- The creation of an index is found again in its symbols. -/
theorem CreateIndex.eq_of_symbols {s s' : CreateIndex} {f f' : Fragment} (hs : s.fragment = .ok f)
    (hs' : s'.fragment = .ok f') (h : s.symbols = s'.symbols) : s = s' := by
  obtain ⟨table, htable, hcolumns, -⟩ := fragment_eq_ok_iff.mp hs
  obtain ⟨table', htable', hcolumns', -⟩ := fragment_eq_ok_iff.mp hs'
  obtain ⟨name, _, columns, unique, ifNotExists⟩ := s
  obtain ⟨name', _, columns', unique', ifNotExists'⟩ := s'
  subst htable htable'
  simp only [symbols, List.cons.injEq, true_and] at h
  obtain ⟨rfl, hindex⟩ := phrase_inj (by simp [word]) (by simp [word]) h
  obtain ⟨rfl, hname⟩ :=
    phrase_inj (by simp [word]) (by simp [word]) (List.cons.inj hindex).2
  simp only [listed, Symbol.names, Option.toList_some, List.map_cons, List.map_nil,
    List.cons_append, List.nil_append, List.cons.injEq, Symbol.token.injEq, Token.name.injEq,
    true_and] at hname
  obtain ⟨rfl, rfl, hlist⟩ := hname
  obtain ⟨rfl, -⟩ := closed_inj (fun n _ ↦ legible_name n) (fun _ _ ↦ trivial) hcolumns hcolumns'
    hlist
  rfl

/-- The removal of a table is found again in its symbols. -/
theorem DropTable.eq_of_symbols {s s' : DropTable} (h : s.symbols = s'.symbols) : s = s' := by
  obtain ⟨table, ifExists, cascade⟩ := s
  obtain ⟨table', ifExists', cascade'⟩ := s'
  simp only [symbols, List.cons.injEq, true_and] at h
  obtain ⟨rfl, hname⟩ := phrase_inj (by simp [word]) (by simp [word]) h
  obtain ⟨hsame, hcascade⟩ := List.cons.inj hname
  obtain rfl := Token.name.inj (Symbol.token.inj hsame)
  obtain ⟨rfl, -⟩ := phrase_inj (by simp) (by simp) (congrArg (· ++ []) hcascade)
  rfl

/-! ## Insertions that are not told apart -/

/-- Two fragments that are spelled alike wherever they stand, with the same values beside them. -/
structure Fragment.SpelledAlike (d : Dialect) (f g : Fragment) : Prop where
  binds : f.binds = g.binds
  chars : ∀ before, f.chars d before = g.chars d before

namespace Fragment.SpelledAlike

variable {f f' g g' : Fragment}

theorem refl (f : Fragment) : f.SpelledAlike d f :=
  ⟨rfl, fun _ ↦ rfl⟩

theorem append (h : f.SpelledAlike d g) (h' : f'.SpelledAlike d g') :
    (f ++ f').SpelledAlike d (g ++ g') := by
  constructor
  · rw [binds_append, binds_append, h.binds, h'.binds]
  · intro before
    rw [chars_append, chars_append, h.chars, h.binds, h'.chars]

theorem cons (p : Piece) (h : f.SpelledAlike d g) : SpelledAlike d (p :: f) (p :: g) :=
  (refl [p]).append h

theorem commaList {fs gs : List Fragment} (h : List.Forall₂ (SpelledAlike d) fs gs) :
    (Fragment.commaList fs).SpelledAlike d (Fragment.commaList gs) := by
  rw [Fragment.commaList, Fragment.commaList]
  induction h with
  | nil => exact refl []
  | cons hf hfs ih =>
    cases hfs with
    | nil => exact hf
    | cons => exact hf.append (ih.cons _)

theorem toQuery_eq (h : f.SpelledAlike d g) : f.toQuery d = g.toQuery d := by
  rw [toQuery, toQuery, h.binds, h.chars]

end Fragment.SpelledAlike

theorem Expr.SameValue.spelledAlike {e e' : Expr} (h : e.SameValue d e') {place : Place}
    {f f' : Fragment} (hf : e.fragment d place = .ok f) (hf' : e'.fragment d place = .ok f') :
    f.SpelledAlike d f' := by
  have hnull : Fragment.SpelledAlike .sqlite [.literal .default] [.literal .null] :=
    ⟨rfl, fun _ ↦ rfl⟩
  have hliteral {l : Literal} {f : Fragment} (hf : (literal l).fragment d place = .ok f) :
      f = [.literal l] := (Literal.fragment_eq_ok_iff.mp hf).2.2
  rcases h with rfl | ⟨rfl, ⟨rfl, rfl⟩ | ⟨rfl, rfl⟩⟩
  · rw [Except.ok.inj (hf.symm.trans hf')]
    exact .refl f'
  · rw [hliteral hf, hliteral hf']
    exact hnull
  · rw [hliteral hf, hliteral hf']
    exact ⟨hnull.binds.symm, fun before ↦ (hnull.chars before).symm⟩

/-- Insertions that are alike are written alike. -/
theorem Insert.Alike.spelledAlike {s s' : Insert} (h : s.Alike d s') {f f' : Fragment}
    (hf : s.fragment d = .ok f) (hf' : s'.fragment d = .ok f') : f.SpelledAlike d f' := by
  obtain ⟨-, -, -, -, -, rows, hrows, rfl⟩ := fragment_eq_ok_iff.mp hf
  obtain ⟨-, -, -, -, -, rows', hrows', rfl⟩ := fragment_eq_ok_iff.mp hf'
  have hlist : (Fragment.commaList rows).SpelledAlike d (Fragment.commaList rows') := by
    refine .commaList (forall₂_results h.rows hrows hrows' fun row row' g g' hrow hg hg' ↦ ?_)
    obtain ⟨fs, hfs, rfl⟩ := rowFragment_eq_ok_iff.mp hg
    obtain ⟨fs', hfs', rfl⟩ := rowFragment_eq_ok_iff.mp hg'
    refine .cons _ (.append (.commaList ?_) (.refl _))
    exact forall₂_results hrow hfs hfs' fun e e' k k' hvalue ↦ hvalue.spelledAlike
  rw [h.table, h.columns]
  exact .cons _ (.cons _ (.cons _ ((Fragment.SpelledAlike.refl _).append (.cons _ hlist))))

/-! ## Queries -/

namespace Draft

variable {α κ : Type} [Statement α κ] [Fragmented α] {symbols : α → List Symbol} {b b' : Draft α}
  {q q' : Query}

/-- Two drafts give the same query exactly if their contents are related, where the relation is what
the symbols show and what makes fragments be spelled alike. -/
theorem query_eq_iff (hd : d.Regular) (hsymbols : Statement.WritesSymbols d symbols)
    {R : α → α → Prop}
    (hread : ∀ a a' f f', Fragmented.fragment d a = .ok f → Fragmented.fragment d a' = .ok f' →
      symbols a = symbols a' → R a a')
    (hwrite : ∀ a a' f f', R a a' → Fragmented.fragment d a = .ok f →
      Fragmented.fragment d a' = .ok f' → f.SpelledAlike d f')
    (h : b.toQuery d = .ok q) (h' : b'.toQuery d = .ok q') :
    q = q' ↔ R b.content b'.content := by
  obtain ⟨f, hf, hq⟩ := exists_fragment_of_toQuery h
  obtain ⟨f', hf', hq'⟩ := exists_fragment_of_toQuery h'
  constructor
  · rintro rfl
    exact hread _ _ f f' hf hf' (symbols_eq_of_toQuery hd hsymbols h h')
  · intro hR
    rw [hq, hq', (hwrite _ _ f f' hR hf hf').toQuery_eq]

/-- **Losslessness.** Whatever was asked of them before, two insertions give the same query exactly
if they have the same table, columns and values, up to a default without a keyword of its own; and
two creations of an index, or two removals of a table, exactly if they are the same. -/
theorem query_faithful (hd : d ∈ Dialect.builtIn) :
    (∀ (b b' : Draft Insert) (q q' : Query), b.toQuery d = .ok q → b'.toQuery d = .ok q' →
      (q = q' ↔ b.content.Alike d b'.content)) ∧
    (∀ (b b' : Draft CreateIndex) (q q' : Query), b.toQuery d = .ok q → b'.toQuery d = .ok q' →
      (q = q' ↔ b.content = b'.content)) ∧
    (∀ (b b' : Draft DropTable) (q q' : Query), b.toQuery d = .ok q → b'.toQuery d = .ok q' →
      (q = q' ↔ b.content = b'.content)) := by
  have hregular := Dialect.regular_of_mem_builtIn hd
  have hequal {β : Type} {fragment : β → Except BuildError Fragment} (a a' : β) (f f' : Fragment)
      (h : a = a') (hf : fragment a = .ok f) (hf' : fragment a' = .ok f') :
      f.SpelledAlike d f' := by
    subst h
    rw [Except.ok.inj (hf.symm.trans hf')]
    exact .refl f'
  refine ⟨fun b b' q q' h h' ↦ ?_, fun b b' q q' h h' ↦ ?_, fun b b' q q' h h' ↦ ?_⟩
  · exact query_eq_iff hregular (Insert.writesSymbols hregular)
      (fun _ _ _ _ hf hf' ↦ Insert.alike_of_symbols hd hf hf')
      (fun _ _ _ _ halike hf hf' ↦ halike.spelledAlike hf hf') h h'
  · exact query_eq_iff hregular CreateIndex.writesSymbols
      (fun _ _ _ _ hf hf' ↦ CreateIndex.eq_of_symbols hf hf') hequal h h'
  · exact query_eq_iff hregular DropTable.writesSymbols
      (fun _ _ _ _ _ _ ↦ DropTable.eq_of_symbols) hequal h h'

/-- An insertion of two rows into columns one of which is named like the border of two rows. -/
def borderDraft (value : Expr) : Draft Insert :=
  ({ content := { table := "t" } } : Draft Insert).addAll .sqlite
    [.columns ["a", "b), ("], .values [.literal (.string "'), ("), value],
      .values [.call "f" [.bind (.int 1), .call "g" []], .bind (.text "?")]]

theorem query_faithful_border :
    Dialect.sqlite ∈ Dialect.builtIn ∧
      (borderDraft (.literal .default)).toQuery .sqlite = .ok
        ⟨"INSERT INTO \"t\" (\"a\", \"b), (\") VALUES ('''), (', NULL), (f(?, g()), ?)",
          [.int 1, .text "?"]⟩ ∧
      (borderDraft (.literal .null)).toQuery .sqlite = .ok
        ⟨"INSERT INTO \"t\" (\"a\", \"b), (\") VALUES ('''), (', NULL), (f(?, g()), ?)",
          [.int 1, .text "?"]⟩ ∧
      (borderDraft (.literal .default)).content.Alike .sqlite
        (borderDraft (.literal .null)).content := by
  have hd : Dialect.sqlite ∈ Dialect.builtIn := by simp [Dialect.builtIn]
  have hdefault : (borderDraft (.literal .default)).toQuery .sqlite = .ok
      ⟨"INSERT INTO \"t\" (\"a\", \"b), (\") VALUES ('''), (', NULL), (f(?, g()), ?)",
        [.int 1, .text "?"]⟩ := by
    decide +kernel
  have hnull : (borderDraft (.literal .null)).toQuery .sqlite = .ok
      ⟨"INSERT INTO \"t\" (\"a\", \"b), (\") VALUES ('''), (', NULL), (f(?, g()), ?)",
        [.int 1, .text "?"]⟩ := by
    decide +kernel
  exact ⟨hd, hdefault, hnull, ((query_faithful hd).1 _ _ _ _ hdefault hnull).mp rfl⟩

end Draft

end SqlBuilder
