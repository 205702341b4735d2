import SqlBuilder.Proofs.Condition.Grammar
import SqlBuilder.Proofs.Lossless.Condition

/-!
# Which conditions follow the grammar

What is written of a tree follows the grammar of conditions exactly if no group in the tree is
empty. An empty group writes nothing, but its parent counts it as a child: it writes a connective in
front of it, and parentheses if they are for two.

A group that is collected in a group of its own is left out if it stays empty, and only a tree that
is given whole can hold an empty group. So whether the condition of a selection follows the grammar
is decided by the trees that were given whole, whatever else was collected.
-/

namespace SqlBuilder

open Reading SqlBuilder.Symbol

variable {d : Dialect}

/-! ## Lists -/

namespace Symbol

variable {P : List Token → Prop} {t : Token}

/-- Lists that are written one by one, with a token in front of each. -/
theorem exists_numbered_flatMap {sss : List (List Symbol)}
    (h : ∀ ss ∈ sss, ∀ before, P (numbered d before ss)) (before : Nat) :
    ∃ tss : List (List Token), (∀ ts ∈ tss, P ts) ∧
      numbered d before (sss.flatMap (.token t :: ·)) = tss.flatMap (t :: ·) := by
  induction sss generalizing before with
  | nil => exact ⟨[], by simp, rfl⟩
  | cons ss sss ih =>
    obtain ⟨hss, hsss⟩ := List.forall_mem_cons.mp h
    obtain ⟨tss, htss, hnumbered⟩ := ih hsss (before + (values ss).length)
    refine ⟨numbered d before ss :: tss, List.forall_mem_cons.mpr ⟨hss before, htss⟩, ?_⟩
    rw [List.flatMap_cons, List.cons_append, numbered_token, numbered_append, hnumbered,
      List.flatMap_cons, List.cons_append]

/-- Lists that are written with a token between any two of them. -/
theorem exists_numbered_separated {ss : List Symbol} {sss : List (List Symbol)}
    (h : ∀ ss' ∈ ss :: sss, ∀ before, P (numbered d before ss')) (before : Nat) :
    ∃ (ts : List Token) (tss : List (List Token)), P ts ∧ (∀ us ∈ tss, P us) ∧
      numbered d before (separated (.token t) (ss :: sss)) = ts ++ tss.flatMap (t :: ·) := by
  obtain ⟨hss, hsss⟩ := List.forall_mem_cons.mp h
  obtain ⟨tss, htss, hnumbered⟩ := exists_numbered_flatMap hsss (before + (values ss).length)
  refine ⟨_, tss, hss before, htss, ?_⟩
  rw [separated_cons, numbered_append, hnumbered]

end Symbol

theorem intercalate_singleton_cons {α : Type} (a : α) (as : List α) (ass : List (List α)) :
    [a].intercalate (as :: ass) = as ++ ass.flatMap (a :: ·) := by
  induction ass generalizing as with
  | nil => simp
  | cons bs ass ih =>
    rw [List.intercalate_cons_of_ne_nil (List.cons_ne_nil _ _), ih, List.flatMap_cons,
      List.append_assoc]
    rfl

/-! ## Comparisons -/

/-- No word of an operator looks like a placeholder or a literal. -/
theorem Operator.words_distinct (o : Operator) : ∀ s ∈ o.words,
    isPlaceholder (.word s.toList) = false ∧ (∀ s' ∈ ["NULL", "*", "TRUE", "FALSE"], s ≠ s') ∧
      s.toList.head?.any (fun c ↦ c.isDigit || c == '-') = false := by
  cases o <;> decide

theorem Literal.isTerm (hd : d ∈ Dialect.builtIn) {l : Literal} (hl : l.IsPlain) :
    IsTerm [l.token d] := by
  have hreserved := Literal.not_isReserved hd l
  have hoperator (o : Operator) : ∀ s ∈ o.words, l.token d ≠ .word s.toList := fun s hs ↦
    Literal.token_ne_word hd hl (o.words_distinct s hs).2.1 (o.words_distinct s hs).2.2
  by_cases hstring : ∃ s, l = .string s
  · obtain ⟨s, rfl⟩ := hstring
    exact .string s
  · rw [not_exists] at hstring
    rw [Literal.token_of_ne_string hstring] at hreserved hoperator ⊢
    exact .word hreserved fun o s hs hw ↦ hoperator o s hs (congrArg _ hw)

/-- An expression is written as one. -/
theorem Expr.isTerm (hd : d ∈ Dialect.builtIn) {e : Expr} (he : e.IsWritable d) (before : Nat) :
    IsTerm (numbered d before (e.symbols d)) := by
  induction e using Expr.induction generalizing before with
  | column c =>
    rw [symbols, ColumnRef.symbols]
    cases c.table with
    | none => exact .name c.name
    | some table => exact .qualified table c.name
  | literal l => exact Literal.isTerm hd (isPlain_of_isWritable hd he)
  | bind v =>
    apply IsTerm.word (Dialect.not_isReserved_placeholder hd _)
    intro o s hs hw
    have hplaceholder := isPlaceholder_placeholder
      (Dialect.regular_of_mem_builtIn hd).placeholder_usual (before + 1)
    rw [hw, (o.words_distinct s hs).1] at hplaceholder
    exact absurd hplaceholder Bool.false_ne_true
  | call function arguments ih =>
    rw [symbols, symbolsAll_eq_map, numbered_token, numbered_append]
    cases arguments with
    | nil => exact @IsTerm.call function.toList [] (by simp)
    | cons a arguments =>
      have harguments : ∀ ss ∈ (a :: arguments).map (symbols d), ∀ before,
          IsTerm (numbered d before ss) :=
        List.forall_mem_map.mpr fun e he' ↦ ih e he' (isWritable_of_mem he e he')
      obtain ⟨ts, tss, hts, htss, hnumbered⟩ := exists_numbered_separated harguments before
      rw [List.map_cons, hnumbered, ← intercalate_singleton_cons]
      exact IsTerm.call function.toList (List.forall_mem_cons.mpr ⟨hts, htss⟩)

theorem Comparison.isComparison (hd : d ∈ Dialect.builtIn) {c : Comparison} (hc : c.IsWritable d)
    (before : Nat) : IsComparison (numbered d before (c.symbols d)) := by
  have hoperator : c.operator.words.map word = (operatorTokens c.operator).map .token := by
    simp [operatorTokens, word]
  rw [symbols, numbered_append, numbered_append, hoperator, numbered_map_token]
  exact .mk c.operator (Expr.isTerm hd hc.1 _) (Expr.isTerm hd hc.2 _)

/-! ## Trees -/

namespace Predicate

/-- Operands are written with a connective between any two of them. -/
theorem isCondition_separated {p : Predicate} {ps : List Predicate}
    (h : ∀ q ∈ p :: ps, ∀ before, IsOperand (numbered d before (q.symbols d))) (c : Combinator)
    (before : Nat) : IsCondition
      (numbered d before (separated (word c.keyword) ((p :: ps).map (symbols d)))) := by
  have hsss : ∀ ss ∈ (p :: ps).map (symbols d), ∀ before, IsOperand (numbered d before ss) :=
    List.forall_mem_map.mpr h
  obtain ⟨ts, tss, hts, htss, hnumbered⟩ := exists_numbered_separated hsss before
  refine ⟨ts, tss.map (c, ·), hts, List.forall_mem_map.mpr htss, ?_⟩
  rw [chain, List.flatMap_map]
  exact hnumbered

/-- A tree without empty groups is written as an operand. -/
theorem isOperand (hd : d ∈ Dialect.builtIn) {p : Predicate} {f : Fragment}
    (h : p.fragment d = .ok f) (hp : p.isFull) (before : Nat) :
    IsOperand (numbered d before (p.symbols d)) := by
  induction p using Predicate.induction generalizing f before with
  | comparison c => exact .comparison (c.isComparison hd (Comparison.isWritable_of_fragment h) _)
  | group c children ih =>
    obtain ⟨hne, hall⟩ := isFull_group_iff.mp hp
    obtain ⟨fs, hfs, -⟩ := fragment_group_eq_ok_iff.mp h
    obtain ⟨p, ps, rfl⟩ := List.exists_cons_of_ne_nil hne
    have hchildren : ∀ q ∈ p :: ps, ∀ before, IsOperand (numbered d before (q.symbols d)) := by
      intro q hq
      obtain ⟨f, hf⟩ := exists_of_forall₂ hfs q hq
      exact ih q hq hf (hall q hq)
    rw [symbols, symbolsAll_eq_map, Symbol.enclosed]
    -- A single child is not enclosed, and is written as it is.
    by_cases hps : ps = []
    · subst hps
      exact hchildren p List.mem_cons_self before
    · have hpos : 0 < ps.length := List.length_pos_iff.mpr hps
      rw [if_pos (by rw [List.length_cons]; omega), numbered_token, numbered_append]
      obtain ⟨first, rest, hfirst, hrest, hchain⟩ := isCondition_separated hchildren c before
      rw [hchain]
      exact .enclosed hfirst hrest

/-- If the last of the operands that are written is missing, or one in between is, then the reader
is left in front of it. -/
theorem dangles_separated (hd : d ∈ Dialect.builtIn) {ps : List Predicate}
    (h : ∀ p ∈ ps, ¬p.isFull → ∀ before, Dangles (numbered d before (p.symbols d)))
    (hps : ∃ p ∈ ps, ¬p.isFull) (c : Combinator) (before : Nat) :
    Dangles (numbered d before (separated (word c.keyword) (ps.map (symbols d)))) := by
  have hkeyword := connective_keyword c
  induction ps generalizing before with
  | nil => simp at hps
  | cons p ps ih =>
    obtain ⟨hp, hrest⟩ := List.forall_mem_cons.mp h
    by_cases hnil : ps = []
    · subst hnil
      exact hp (by simpa using hps) before
    · obtain ⟨q, qs, rfl⟩ := List.exists_cons_of_ne_nil hnil
      have hsplit : separated (word c.keyword) ((p :: q :: qs).map (symbols d))
          = p.symbols d
            ++ word c.keyword :: separated (word c.keyword) ((q :: qs).map (symbols d)) := rfl
      rw [hsplit, numbered_append, word, numbered_token]
      by_cases hfull : p.isFull
      · obtain ⟨x, hread, -⟩ := exists_reads hd hfull before
        exact hread.isRead.dangles_append hkeyword (ih hrest (by simpa [hfull] using hps) _)
      · exact (hp hfull before).append (by rw [hkeyword]; rfl) _

/-- A tree with an empty group leaves the reader in front of an operand. -/
theorem dangles (hd : d ∈ Dialect.builtIn) {p : Predicate} (hp : ¬p.isFull) (before : Nat) :
    Dangles (numbered d before (p.symbols d)) := by
  induction p using Predicate.induction generalizing before with
  | comparison c => exact absurd rfl hp
  | group c children ih =>
    rw [isFull_group_iff, not_and_or, not_ne_iff] at hp
    rw [symbols, symbolsAll_eq_map, Symbol.enclosed]
    rcases hp with rfl | hp
    · exact dangles_nil
    · have hchildren := dangles_separated hd ih (by simpa using hp) c
      split
      · rw [numbered_token, numbered_append]
        exact (hchildren before).enclosed
      · exact hchildren before

end Predicate

/-- What was collected is written as a condition exactly if no group among it is empty. -/
theorem WhereGroup.isCondition_iff (hd : d ∈ Dialect.builtIn) {g : WhereGroup} {f : Fragment}
    (h : g.fragment d = .ok f) (hne : g.children ≠ []) (before : Nat) :
    IsCondition (numbered d before (g.symbols d)) ↔ g.IsFull := by
  constructor
  · intro hcondition
    by_contra hfull
    have hdangles := Predicate.dangles_separated hd (fun p _ ↦ Predicate.dangles hd)
      (by simpa [IsFull] using hfull) g.combinator before
    exact hdangles.not_isCondition hcondition
  · intro hfull
    obtain ⟨fs, hfs, -⟩ := fragment_eq_ok_iff.mp h
    obtain ⟨p, ps, hchildren⟩ := List.exists_cons_of_ne_nil hne
    rw [symbols, hchildren]
    apply Predicate.isCondition_separated
    intro q hq
    rw [← hchildren] at hq
    obtain ⟨f, hf⟩ := exists_of_forall₂ hfs q hq
    exact Predicate.isOperand hd hf (hfull q hq)

/-! ## Selections -/

namespace Select

/-- The tokens of a statement have no condition among them, or one that follows the grammar. -/
def IsGrammatical (ts : List Token) : Prop :=
  (∀ t ∈ ts, t.isKeyword "WHERE" = false) ∨ ∃ body, conditionBody? ts = some body ∧ IsCondition body

theorem isGrammatical_iff_of_body {ts body : List Token} (h : conditionBody? ts = some body) :
    IsGrammatical ts ↔ IsCondition body := by
  constructor
  · rintro (hnone | ⟨body', hbody', hcondition⟩)
    · have hempty : (ts.dropWhile fun t ↦ !t.isKeyword "WHERE") = [] := by
        rw [List.dropWhile_eq_nil_iff]
        intro t ht
        rw [hnone t ht, Bool.not_false]
      simp [conditionBody?, hempty] at h
    · rw [h, Option.some.injEq] at hbody'
      exact hbody' ▸ hcondition
  · intro hcondition
    exact Or.inr ⟨body, h, hcondition⟩

/-- A selection that can be written has a condition that follows the grammar, or none, exactly if
no group among what was collected is empty. -/
theorem isGrammatical_symbols_iff (hd : d ∈ Dialect.builtIn) {s : Select} {f : Fragment}
    (h : s.fragment d = .ok f) :
    IsGrammatical (numbered d 0 (s.symbols d)) ↔ s.condition.IsFull := by
  obtain ⟨hnone, hsome⟩ := conditionBody?_symbols hd s
  by_cases hempty : s.condition.children = []
  · constructor
    · intro _
      simp [WhereGroup.IsFull, hempty]
    · intro _
      exact Or.inl (hnone hempty)
  · obtain ⟨-, -, -, -, condition, -, -, -, hcondition, -⟩ := fragment_eq_ok_iff.mp h
    obtain ⟨hnil, -⟩ | ⟨-, g, hg, -⟩ := conditionFragment_eq_ok_iff.mp hcondition
    · exact absurd hnil hempty
    · obtain ⟨before, hbody⟩ := hsome hempty
      rw [isGrammatical_iff_of_body hbody, WhereGroup.isCondition_iff hd hg hempty]

/-- **Well-formedness.** What a selection is rendered to has no condition or one that follows the
grammar, exactly if no tree that was given whole has an empty group in it. -/
theorem isGrammatical_iff (hd : d ∈ Dialect.builtIn) {cs : List Clause} {q : Query}
    (h : Statement.draft d ({} : Select) cs = .ok q) :
    ∃ ts, readTokens d q.sql = some ts ∧
      (IsGrammatical ts ↔ ∀ s ∈ conditionSteps cs, s.isFull) := by
  obtain ⟨⟨f, hf⟩, hread, -⟩ := readTokens_of_toQuery (Dialect.regular_of_mem_builtIn hd) h
  rw [content_addAll d _ rfl] at hf hread
  have hcondition : (cs.foldl extend {}).condition = WhereGroup.ofSteps (conditionSteps cs) :=
    condition_foldl_extend {} cs
  refine ⟨_, hread, ?_⟩
  rw [isGrammatical_symbols_iff hd hf, hcondition, WhereGroup.isFull_ofSteps_iff]

/-- A tree with a group of one and a group of two, next to a group that stayed empty. -/
def nestedClauses : List Clause :=
  [.items [.literal .all], .table "t", .condition (.group .and []),
    .condition (.group .and [.push .and (.group .or
      [.group .and [.comparison ⟨.column { name := "a" }, .equal, .bind (.int 1)⟩],
        .group .and [.comparison ⟨.column { name := "b" }, .isNot, .literal .null⟩,
          .comparison ⟨.column { name := "c" }, .less, .call "abs" [.bind (.int 2)]⟩]])])]

theorem isGrammatical_nestedClauses :
    Dialect.postgresql ∈ Dialect.builtIn ∧ (∀ s ∈ conditionSteps nestedClauses, s.isFull) ∧
      Statement.draft .postgresql ({} : Select) nestedClauses = .ok
        ⟨"SELECT * FROM \"t\" WHERE (\"a\" = $1 OR (\"b\" IS NOT NULL AND \"c\" < abs($2)))",
          [.int 1, .int 2]⟩ ∧
      ∃ ts, readTokens .postgresql
          "SELECT * FROM \"t\" WHERE (\"a\" = $1 OR (\"b\" IS NOT NULL AND \"c\" < abs($2)))"
            = some ts ∧ IsGrammatical ts := by
  have hd : Dialect.postgresql ∈ Dialect.builtIn := by simp [Dialect.builtIn]
  have hfull : ∀ s ∈ conditionSteps nestedClauses, s.isFull :=
    WhereStep.isFullAll_iff.mp rfl
  have hdraft : Statement.draft .postgresql ({} : Select) nestedClauses = .ok
      ⟨"SELECT * FROM \"t\" WHERE (\"a\" = $1 OR (\"b\" IS NOT NULL AND \"c\" < abs($2)))",
        [.int 1, .int 2]⟩ := by
    decide +kernel
  obtain ⟨ts, hread, hiff⟩ := isGrammatical_iff hd hdraft
  exact ⟨hd, hfull, hdraft, ts, hread, hiff.mpr hfull⟩

/-- A tree that is an empty group. -/
def hollowClauses : List Clause :=
  [.items [.literal .all], .table "t", .condition (.group .and [.push .and (.group .and [])])]

/-- Nothing stands behind `WHERE` if all that was given is an empty group. -/
theorem not_isGrammatical_hollowClauses :
    Statement.draft .sqlite ({} : Select) hollowClauses = .ok ⟨"SELECT * FROM \"t\" WHERE ", []⟩ ∧
      ∃ ts, readTokens .sqlite "SELECT * FROM \"t\" WHERE " = some ts ∧
        conditionBody? ts = some [] ∧ ¬IsGrammatical ts := by
  have hdraft : Statement.draft .sqlite ({} : Select) hollowClauses
      = .ok ⟨"SELECT * FROM \"t\" WHERE ", []⟩ := by
    decide +kernel
  have hread : readTokens .sqlite "SELECT * FROM \"t\" WHERE "
      = some [.word "SELECT".toList, .word "*".toList, .word "FROM".toList, .name "t",
        .word "WHERE".toList] := by
    decide +kernel
  have hbody : conditionBody? [.word "SELECT".toList, .word "*".toList, .word "FROM".toList,
      .name "t", .word "WHERE".toList] = some [] := by
    decide +kernel
  refine ⟨hdraft, _, hread, hbody, ?_⟩
  rw [isGrammatical_iff_of_body hbody]
  exact dangles_nil.not_isCondition

end Select

end SqlBuilder
