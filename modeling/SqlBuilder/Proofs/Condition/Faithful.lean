import SqlBuilder.Proofs.Condition.Value
import SqlBuilder.Proofs.Reading.Condition
import SqlBuilder.Proofs.Symbols.Select

/-!
# Conditions mean what their steps say

The text of a condition is read back by a reader that knows nothing of trees and groups, only that
parentheses come first and that `AND` binds tighter than `OR`. What it reads means the strict fold
of the steps that the condition grew by, whatever the comparisons evaluate to.

No word of an expression is a keyword, so a comparison is read as one operand. At one level of
parentheses there is only one connective, so precedence never decides anything.
-/

namespace SqlBuilder

open Reading SqlBuilder.Symbol

variable {d : Dialect}

/-! ## The words of expressions -/

theorem Dialect.not_isReserved_numeral {cs : List Char} (h : Numeral cs) :
    (Token.word cs).isReserved = false := by
  obtain ⟨c, hhead, hc⟩ := h.head
  obtain ⟨cs, rfl⟩ := List.head?_eq_some_iff.mp hhead
  refine Token.not_isReserved_of_head ?_ cs
  rcases hc with hdigit | rfl
  · exact isAlpha_toUpper_of_isDigit hdigit
  · decide

theorem Dialect.not_isReserved_placeholder (hd : d ∈ Dialect.builtIn) (position : Nat) :
    (Token.word (d.placeholder position).toList).isReserved = false := by
  rw [Dialect.toList_placeholder (Dialect.regular_of_mem_builtIn hd).placeholder_usual]
  cases d.placeholderStyle with
  | question => exact Token.not_isReserved_of_head (by decide) _
  | dollar => exact Token.not_isReserved_of_head (by decide) _

theorem Literal.not_isReserved (hd : d ∈ Dialect.builtIn) (l : Literal) :
    (l.token d).isReserved = false := by
  have hbuiltIn : (Token.word d.defaultText.toList).isReserved = false ∧
      ∀ b, (Token.word (d.booleanText b).toList).isReserved = false := by
    revert d
    decide
  have hfixed : ∀ s ∈ ["NULL", "*", "NaN", "inf", "-inf"],
      (Token.word s.toList).isReserved = false := by
    decide
  cases l with
  | default => exact hbuiltIn.1
  | null => exact hfixed "NULL" (by simp)
  | string s => rfl
  | integer n => exact Dialect.not_isReserved_numeral (numeral_int _)
  | float x =>
    by_cases hfinite : x.isFinite
    · exact Dialect.not_isReserved_numeral (Binary64.numeral_text hfinite)
    · have htext : x.text ∈ ["NaN", "inf", "-inf"] := by
        rw [Binary64.text]
        by_cases hnan : x.isNaN
        · simp [hnan]
        · cases x.isNegative <;>
            simp only [hnan, hfinite, Bool.false_eq_true, if_false, if_true, Bool.not_false] <;>
              decide
      exact hfixed x.text (List.mem_cons_of_mem _ (List.mem_cons_of_mem _ htext))
  | boolean b => exact hbuiltIn.2 b
  | all => exact hfixed "*" (by simp)

/-! ## Expressions -/

namespace Expr

/-- A token that is no keyword and is neither a separator nor a parenthesis belongs to
the operand. -/
theorem continues_token {t : Token} (ht : t.isReserved = false)
    (hdepth : ∀ depth, t.depthBehind depth = depth) (hcomma : t ≠ .comma) : Continues 0 [t] := by
  have hparenthesis : t ≠ .opening ∧ t ≠ .closing := by
    constructor
    · rintro rfl
      exact absurd (hdepth 0) (by decide)
    · rintro rfl
      exact absurd (hdepth 1) (by decide)
  exact Continues.token hdepth
    (Or.inr ⟨(Token.isReserved_eq_false_iff.mp ht).2, hparenthesis.1, hparenthesis.2, hcomma⟩)

theorem continues_separated {sss : List (List Symbol)}
    (h : ∀ ss ∈ sss, ∀ before, Continues 1 (numbered d before ss)) (before : Nat) :
    Continues 1 (numbered d before (separated (.token .comma) sss)) := by
  fun_induction separated (.token .comma) sss generalizing before with
  | case1 => exact Continues.nil
  | case2 ss => exact h ss List.mem_cons_self before
  | case3 ss sss _ ih =>
    have hcomma : Continues 1 [.comma] := Continues.token (fun _ ↦ rfl) (Or.inl Nat.one_pos)
    rw [numbered_append, numbered_token, ← List.singleton_append]
    exact (h ss List.mem_cons_self before).append
      (hcomma.append (ih (fun ss hss ↦ h ss (List.mem_cons_of_mem _ hss)) _))

/-- An expression is read as a part of its comparison. -/
theorem continues (hd : d ∈ Dialect.builtIn) (e : Expr) (before : Nat) :
    Continues 0 (numbered d before (e.symbols d)) := by
  induction e using Expr.induction generalizing before with
  | column c =>
    have hname (s : String) : Continues 0 [.name s] := continues_token rfl (fun _ ↦ rfl) (by simp)
    have hpoint : Continues 0 [.word ['.']] := continues_token (by decide) (fun _ ↦ rfl) (by simp)
    rw [symbols, ColumnRef.symbols]
    cases c.table with
    | none => exact hname c.name
    | some table => exact (hname table).append (hpoint.append (hname c.name))
  | literal l =>
    cases l with
    | string s => exact continues_token rfl (fun _ ↦ rfl) (by simp [Literal.token])
    | _ =>
      exact continues_token (Literal.not_isReserved hd _) (fun _ ↦ rfl) (by simp [Literal.token])
  | bind v =>
    exact continues_token (Dialect.not_isReserved_placeholder hd _) (fun _ ↦ rfl) (by simp)
  | call function arguments ih =>
    rw [symbols, numbered_token, numbered_append, symbolsAll_eq_map]
    refine Continues.call function.toList (continues_separated (fun ss hss before ↦ ?_) before)
    obtain ⟨a, ha, rfl⟩ := List.mem_map.mp hss
    exact (ih a ha before).mono (Nat.zero_le 1)

end Expr

/-! ## Comparisons -/

namespace Comparison

/-- The tokens are those of the comparison, with its placeholders numbered on from somewhere. -/
def IsWrittenAs (d : Dialect) (c : Comparison) (ts : List Token) : Prop :=
  ∃ before, ts = numbered d before (c.symbols d)

theorem continues_operator (o : Operator) (before : Nat) :
    Continues 0 (numbered d before (o.words.map word)) := by
  have hword : ∀ s ∈ o.words, Continues 0 [.word s.toList] := by
    intro s hs
    refine Expr.continues_token ?_ (fun _ ↦ rfl) (by simp)
    revert s
    cases o <;> decide
  generalize o.words = words at hword
  induction words with
  | nil => exact Continues.nil
  | cons s words ih =>
    rw [List.forall_mem_cons] at hword
    exact hword.1.append (ih hword.2)

theorem reads (hd : d ∈ Dialect.builtIn) (c : Comparison) (before : Nat) :
    Reads (numbered d before (c.symbols d)) (.comparison (numbered d before (c.symbols d))) := by
  rw [symbols, numbered_append, numbered_append]
  refine Reads.comparison ((Expr.continues hd c.left _).append
    ((continues_operator c.operator _).append (Expr.continues hd c.right _))) ?_
  cases c.operator <;> simp [Operator.words, word]

end Comparison

/-! ## Trees -/

namespace Predicate

/-- The formula is what was written of conditions with these comparisons and this value. -/
structure IsReadAs (d : Dialect) (cs : List Comparison) (v : (Nat → Truth) → Nat → Option Truth)
    (x : Formula) : Prop where
  /-- Each comparison was written, in order. -/
  atoms : List.Forall₂ (Comparison.IsWrittenAs d) cs x.atoms
  /-- The formula means the same. -/
  value : ∀ ρ n, v ρ n = some (x.value ρ n)

variable {cs cs' : List Comparison} {v v' : (Nat → Truth) → Nat → Option Truth} {x y : Formula}

theorem IsReadAs.join (c : Combinator) (hx : IsReadAs d cs v x) (hy : IsReadAs d cs' v' y) :
    IsReadAs d (cs ++ cs') (fun ρ n ↦ c.extend (v ρ n) (v' ρ (n + cs.length))) (.join c x y) := by
  refine ⟨List.rel_append hx.atoms hy.atoms, fun ρ n ↦ ?_⟩
  rw [hx.value, hy.value, hx.atoms.length_eq]
  rfl

/-- Conditions that are joined one by one are read as formulas that are joined one by one. -/
theorem IsReadAs.foldl (c : Combinator) {ps : List Predicate} {xs : List Formula}
    (h : List.Forall₂ (fun p x ↦ IsReadAs d p.leaves (fun ρ n ↦ p.value ρ n) x) ps xs)
    (hx : IsReadAs d cs v x) :
    IsReadAs d (cs ++ leavesAll ps) (fun ρ n ↦ valueAll ρ c (n + cs.length) (v ρ n) ps)
      (xs.foldl (.join c) x) := by
  induction h generalizing cs v x with
  | nil => simpa [leavesAll, valueAll] using hx
  | @cons p y ps xs hp _ ih =>
    have hrest := ih (hx.join c hp)
    simpa only [List.foldl_cons, leavesAll, valueAll, List.append_assoc, List.length_append,
      Nat.add_assoc] using hrest

/-- Children are read as operands with a connective between them. -/
theorem exists_reads_children {ps : List Predicate} (t : Token)
    (h : ∀ p ∈ ps, ∀ before, ∃ x, Reads (numbered d before (p.symbols d)) x ∧
      IsReadAs d p.leaves (fun ρ n ↦ p.value ρ n) x) (before : Nat) :
    ∃ tss xs, numbered d before ((ps.map (symbols d)).flatMap (.token t :: ·))
      = tss.flatMap (t :: ·) ∧ List.Forall₂ Reads tss xs ∧
      List.Forall₂ (fun p x ↦ IsReadAs d p.leaves (fun ρ n ↦ p.value ρ n) x) ps xs := by
  induction ps generalizing before with
  | nil => exact ⟨[], [], rfl, List.Forall₂.nil, List.Forall₂.nil⟩
  | cons p ps ih =>
    rw [List.forall_mem_cons] at h
    obtain ⟨x, hread, hmeans⟩ := h.1 before
    obtain ⟨tss, xs, hnumbered, hreads, hmeansAll⟩ :=
      ih h.2 (before + (values (p.symbols d)).length)
    refine ⟨_ :: tss, x :: xs, ?_, List.Forall₂.cons hread hreads,
      List.Forall₂.cons hmeans hmeansAll⟩
    rw [List.map_cons, List.flatMap_cons, List.cons_append, numbered_token, numbered_append,
      hnumbered, List.flatMap_cons, List.cons_append]

theorem connective_keyword (c : Combinator) :
    (Token.word c.keyword.toList).connective? = some c := by
  cases c <;> decide

/-- What stands between two parentheses, or alone behind `WHERE`. -/
theorem exists_reads_joined {p : Predicate} {ps : List Predicate}
    (h : ∀ q ∈ p :: ps, ∀ before, ∃ x, Reads (numbered d before (q.symbols d)) x ∧
      IsReadAs d q.leaves (fun ρ n ↦ q.value ρ n) x) (c : Combinator) (before : Nat) :
    ∃ ts tss x xs, numbered d before (separated (word c.keyword) ((p :: ps).map (symbols d)))
        = ts ++ tss.flatMap (.word c.keyword.toList :: ·) ∧
      Reads ts x ∧ List.Forall₂ Reads tss xs ∧ (ps = [] → tss = [] ∧ xs = []) ∧
      IsReadAs d (leavesAll (p :: ps)) (fun ρ n ↦ valueAll ρ c n none (p :: ps))
        (xs.foldl (.join c) x) := by
  rw [List.forall_mem_cons] at h
  obtain ⟨x, hread, hmeans⟩ := h.1 before
  obtain ⟨tss, xs, hnumbered, hreads, hmeansAll⟩ :=
    exists_reads_children (.word c.keyword.toList) h.2 (before + (values (p.symbols d)).length)
  refine ⟨_, tss, x, xs, ?_, hread, hreads, ?_, hmeans.foldl c hmeansAll⟩
  · rw [List.map_cons, separated_cons, numbered_append, word, hnumbered]
  · rintro rfl
    cases hmeansAll
    cases hreads
    exact ⟨rfl, rfl⟩

/-- A condition is read as an operand that means the same. -/
theorem exists_reads (hd : d ∈ Dialect.builtIn) {p : Predicate} (hp : p.isFull) (before : Nat) :
    ∃ x, Reads (numbered d before (p.symbols d)) x ∧
      IsReadAs d p.leaves (fun ρ n ↦ p.value ρ n) x := by
  induction p using Predicate.induction generalizing before with
  | comparison c =>
    refine ⟨_, Comparison.reads hd c before, ?_, fun ρ n ↦ rfl⟩
    exact List.Forall₂.cons ⟨before, rfl⟩ List.Forall₂.nil
  | group c children ih =>
    obtain ⟨hne, hall⟩ := isFull_group_iff.mp hp
    obtain ⟨p, ps, rfl⟩ := List.exists_cons_of_ne_nil hne
    have hjoined := exists_reads_joined (fun q hq ↦ ih q hq (hall q hq)) c before
    obtain ⟨ts, tss, x, xs, hnumbered, hread, hreads, hsingle, hmeans⟩ := hjoined
    refine ⟨xs.foldl (.join c) x, ?_, hmeans⟩
    rw [symbols, symbolsAll_eq_map, Symbol.enclosed]
    -- A single child is not enclosed, and is read as the group.
    by_cases hps : ps = []
    · obtain ⟨rfl, rfl⟩ := hsingle hps
      rw [if_neg (by simp [hps]), hnumbered, List.flatMap_nil, List.append_nil]
      exact hread
    · have hpos : 0 < ps.length := List.length_pos_iff.mpr hps
      rw [if_pos (by rw [List.length_cons]; omega), numbered_token, numbered_append, hnumbered]
      exact Reads.enclosed (connective_keyword c) hread hreads

end Predicate

namespace WhereGroup

/-- What was collected is read as it stands behind `WHERE`. -/
theorem exists_readCondition (hd : d ∈ Dialect.builtIn) {g : WhereGroup} (hne : g.children ≠ [])
    (hg : ∀ p ∈ g.children, p.isFull) (before : Nat) :
    ∃ x, readCondition (numbered d before (g.symbols d)) = some x ∧
      Predicate.IsReadAs d g.leaves (fun ρ n ↦ g.value ρ n) x := by
  obtain ⟨p, ps, hchildren⟩ := List.exists_cons_of_ne_nil hne
  rw [hchildren] at hg
  have hjoined := Predicate.exists_reads_joined (fun q hq ↦ Predicate.exists_reads hd (hg q hq))
    g.combinator before
  obtain ⟨ts, tss, x, xs, hnumbered, hread, hreads, -, hmeans⟩ := hjoined
  refine ⟨xs.foldl (.join g.combinator) x, ?_, ?_⟩
  · rw [symbols, hchildren, hnumbered]
    exact readCondition_separated (Predicate.connective_keyword _) hread hreads
  · rw [Predicate.leavesAll_eq_flatMap, ← hchildren] at hmeans
    exact hmeans

end WhereGroup

/-! ## Where the condition stands -/

theorem Expr.without_reserved (hd : d ∈ Dialect.builtIn) (e : Expr) :
    Without Token.isReserved (e.symbols d) := by
  induction e using Expr.induction with
  | column c =>
    rw [symbols, ColumnRef.symbols]
    cases c.table with
    | none => exact Without.token rfl
    | some table =>
      exact (Without.token rfl).cons ((Without.token (by decide)).cons (Without.token rfl))
  | literal l => exact Without.token (Literal.not_isReserved hd l)
  | bind v => exact Without.value v
  | call function arguments ih =>
    rw [symbols, symbolsAll_eq_map]
    refine Without.cons (Without.token rfl) ((Without.separated (Without.token rfl) ?_).append
      (Without.token rfl))
    simpa using ih

theorem Comparison.without_clauseWord (hd : d ∈ Dialect.builtIn) (c : Comparison) :
    Without Token.isClauseWord (c.symbols d) := by
  have hside (e : Expr) : Without Token.isClauseWord (e.symbols d) :=
    (Expr.without_reserved hd e).mono fun t ht ↦ (Token.isReserved_eq_false_iff.mp ht).1
  refine (hside c.left).append ((Without.words ?_).append (hside c.right))
  cases c.operator <;> decide

theorem Predicate.without_clauseWord (hd : d ∈ Dialect.builtIn) (p : Predicate) :
    Without Token.isClauseWord (p.symbols d) := by
  induction p using Predicate.induction with
  | comparison c => exact Comparison.without_clauseWord hd c
  | group c children ih =>
    have hkeyword : Token.isClauseWord (.word c.keyword.toList) = false := by cases c <;> decide
    have hchildren :
        Without Token.isClauseWord (separated (word c.keyword) (symbolsAll d children)) := by
      rw [symbolsAll_eq_map]
      exact Without.separated (Without.token hkeyword) (by simpa using ih)
    rw [symbols, Symbol.enclosed]
    split
    · exact Without.cons (Without.token rfl) (hchildren.append (Without.token rfl))
    · exact hchildren

theorem Reading.Token.isKeyword_where_eq_false {t : Token} (ht : t.isReserved = false) :
    t.isKeyword "WHERE" = false := by
  have hclause := (Token.isReserved_eq_false_iff.mp ht).1
  simp only [isClauseWord, clauseWords, List.any_cons, Bool.or_eq_false_iff] at hclause
  exact hclause.1

namespace Select

theorem without_where_expressions (hd : d ∈ Dialect.builtIn) (es : List Expr) :
    ∀ ss ∈ es.map (Expr.symbols d), Without (Token.isKeyword "WHERE") ss := by
  intro ss hss
  obtain ⟨e, -, rfl⟩ := List.mem_map.mp hss
  exact (Expr.without_reserved hd e).mono fun t ht ↦ Token.isKeyword_where_eq_false ht

theorem without_where_head (hd : d ∈ Dialect.builtIn) (s : Select) :
    Without (Token.isKeyword "WHERE") (s.headSymbols d) := by
  have hdistinct : Without (Token.isKeyword "WHERE") (Symbol.optional s.distinct "DISTINCT") := by
    cases s.distinct with
    | false => exact Without.nil
    | true => exact Without.token (by decide)
  have hnames : ∀ ss ∈ names s.tables, Without (Token.isKeyword "WHERE") ss := by
    intro ss hss
    obtain ⟨n, -, rfl⟩ := List.mem_map.mp hss
    exact Without.token rfl
  refine Without.cons (Without.token (by decide)) (hdistinct.append ?_)
  exact (Without.separated (Without.token rfl) (without_where_expressions hd s.items)).append
    (Without.clause (by decide) rfl hnames)

theorem without_where_tail (hd : d ∈ Dialect.builtIn) (s : Select) :
    Without (Token.isKeyword "WHERE") (s.tailSymbols d) := by
  have hordering :
      ∀ ss ∈ s.ordering.map (orderSymbols d), Without (Token.isKeyword "WHERE") ss := by
    intro ss hss
    obtain ⟨item, -, rfl⟩ := List.mem_map.mp hss
    have hkeyword : Token.isKeyword "WHERE" (.word item.2.keyword.toList) = false := by
      cases item.2 <;> decide
    exact (without_where_expressions hd [item.1] _ (by simp)).append (Without.token hkeyword)
  have hnumber (k : String) (hk : Token.isKeyword "WHERE" (.word k.toList) = false)
      (n : Option UInt64) : Without (Token.isKeyword "WHERE") (number k n) := by
    cases n with
    | none => exact Without.nil
    | some n =>
      refine (Without.token hk).cons (Without.token (Token.isKeyword_where_eq_false ?_))
      rw [Nat.toString_eq_ofList_toDigits, String.toList_ofList]
      exact Dialect.not_isReserved_numeral (unsignedNumeral_toDigits n.toNat).numeral
  exact (Without.clause (by decide) rfl (without_where_expressions hd s.grouping)).append
    ((Without.clause (by decide) rfl hordering).append
      ((hnumber "LIMIT" (by decide) s.limit).append (hnumber "OFFSET" (by decide) s.offset)))

/-- The tokens in front of the condition, of the condition and behind it. -/
theorem conditionBody?_symbols (hd : d ∈ Dialect.builtIn) (s : Select) :
    (s.condition.children = [] → ∀ t ∈ numbered d 0 (s.symbols d), t.isKeyword "WHERE" = false) ∧
      (s.condition.children ≠ [] → ∃ before, conditionBody? (numbered d 0 (s.symbols d))
        = some (numbered d before (s.condition.symbols d))) := by
  have hhead := (without_where_head hd s).numbered
    fun n ↦ Token.isKeyword_where_eq_false (Dialect.not_isReserved_placeholder hd n)
  have htail := (without_where_tail hd s).numbered
    fun n ↦ Token.isKeyword_where_eq_false (Dialect.not_isReserved_placeholder hd n)
  constructor
  · intro hempty t ht
    rw [symbols, conditionSymbols_eq_nil hempty, List.nil_append, numbered_append] at ht
    exact (List.mem_append.mp ht).elim (hhead 0 t) (htail _ t)
  · intro hne
    have hbody : Without Token.isClauseWord (s.condition.symbols d) := by
      refine Without.separated (Without.token ?_) ?_
      · cases s.condition.combinator <;> decide
      · intro ss hss
        obtain ⟨p, -, rfl⟩ := List.mem_map.mp hss
        exact Predicate.without_clauseWord hd p
    have hnumbered := hbody.numbered
      fun n ↦ (Token.isReserved_eq_false_iff.mp (Dialect.not_isReserved_placeholder hd n)).1
    refine ⟨0 + (values (s.headSymbols d)).length, ?_⟩
    rw [symbols, conditionSymbols_eq_cons hne, List.cons_append, numbered_append, word,
      numbered_token, numbered_append]
    refine conditionBody?_eq_some (hhead 0) (by decide) (hnumbered _) fun t ht ↦ ?_
    -- What is behind the condition begins with the word of a clause, and nothing in it does.
    have hwords :
        ∀ w ∈ ["GROUP", "ORDER", "LIMIT", "OFFSET"], (Token.word w.toList).isClauseWord := by
      decide
    obtain ⟨w, hw, rfl⟩ := (begins_tail d s).numbered _ t ht
    exact hwords w hw

/-! ## Selections -/

/-- **Faithfulness.** Read as SQL reads it, the condition of a selection compares what its steps
compare, in their order, and whatever the comparisons evaluate to, its value is the strict fold of
the steps. If nothing is compared, there is no condition. -/
theorem condition_faithful (hd : d ∈ Dialect.builtIn) {cs : List Clause}
    (hcs : ∀ s ∈ conditionSteps cs, s.isFull) {q : Query}
    (h : Statement.draft d ({} : Select) cs = .ok q) :
    ∃ ts, readTokens d q.sql = some ts ∧
      (WhereStep.leavesAll (conditionSteps cs) = [] → ∀ t ∈ ts, t.isKeyword "WHERE" = false) ∧
      (WhereStep.leavesAll (conditionSteps cs) ≠ [] →
        ∃ body x, conditionBody? ts = some body ∧ readCondition body = some x ∧
          List.Forall₂ (Comparison.IsWrittenAs d) (WhereStep.leavesAll (conditionSteps cs))
            x.atoms ∧
          ∀ ρ, WhereStep.valueAll ρ 0 none (conditionSteps cs) = some (x.value ρ 0)) := by
  obtain ⟨-, hread, -⟩ := readTokens_of_toQuery (Dialect.regular_of_mem_builtIn hd) h
  rw [content_addAll d _ rfl] at hread
  have hcondition : (cs.foldl extend {}).condition = WhereGroup.ofSteps (conditionSteps cs) :=
    condition_foldl_extend {} cs
  have hleaves : (WhereGroup.ofSteps (conditionSteps cs)).leaves
      = WhereStep.leavesAll (conditionSteps cs) := by
    rw [WhereGroup.ofSteps, WhereGroup.leaves_steps, WhereStep.leavesAll_eq_flatMap]
    rfl
  have hfull : (WhereGroup.ofSteps (conditionSteps cs)).IsFull := by
    refine WhereGroup.IsFull.steps ?_ hcs
    simp [WhereGroup.IsFull, WhereGroup.empty]
  have hempty : (WhereGroup.ofSteps (conditionSteps cs)).children = [] ↔
      WhereStep.leavesAll (conditionSteps cs) = [] := by
    rw [← hleaves, hfull.leaves_eq_nil_iff]
  obtain ⟨hnone, hsome⟩ := conditionBody?_symbols hd (cs.foldl extend {})
  rw [hcondition] at hnone hsome
  refine ⟨_, hread, fun hnil ↦ hnone (hempty.mpr hnil), fun hne ↦ ?_⟩
  have hchildren := hempty.not.mpr hne
  obtain ⟨before, hbody⟩ := hsome hchildren
  obtain ⟨x, hx, hmeans⟩ := WhereGroup.exists_readCondition hd hchildren hfull before
  refine ⟨_, x, hbody, hx, hleaves ▸ hmeans.atoms, fun ρ ↦ ?_⟩
  rw [← WhereGroup.value_ofSteps]
  exact hmeans.value ρ 0

/-- A change of the combinator, an empty group in between, a string with parentheses and a function
that is named like a connective. -/
def mixedClauses : List Clause :=
  [.items [.literal .all], .table "t",
    .condition (.compare .and ⟨.column { name := "a" }, .equal, .literal (.integer 1)⟩),
    .condition (.group .and [.group .and []]),
    .condition (.group .or
      [.compare .and ⟨.column { name := "b" }, .equal, .literal (.string ") OR (")⟩]),
    .condition (.compare .and ⟨.call "OR" [.column { name := "c" }], .is, .literal .null⟩)]

theorem condition_faithful_mixed :
    Dialect.sqlite ∈ Dialect.builtIn ∧ (∀ s ∈ conditionSteps mixedClauses, s.isFull) ∧
      Statement.draft .sqlite ({} : Select) mixedClauses = .ok
        ⟨"SELECT * FROM \"t\" WHERE (\"a\" = 1 OR \"b\" = ') OR (') AND OR(\"c\") IS NULL", []⟩ ∧
      ∃ ts body x, readTokens .sqlite
          "SELECT * FROM \"t\" WHERE (\"a\" = 1 OR \"b\" = ') OR (') AND OR(\"c\") IS NULL"
            = some ts ∧
        conditionBody? ts = some body ∧ readCondition body = some x ∧
        ∀ ρ : Nat → Truth, x.value ρ 0 = ((ρ 0).or (ρ 1)).and (ρ 2) := by
  have hd : Dialect.sqlite ∈ Dialect.builtIn := by simp [Dialect.builtIn]
  have hfull : ∀ s ∈ conditionSteps mixedClauses, s.isFull :=
    WhereStep.isFullAll_iff.mp rfl
  have hdraft : Statement.draft .sqlite ({} : Select) mixedClauses = .ok
      ⟨"SELECT * FROM \"t\" WHERE (\"a\" = 1 OR \"b\" = ') OR (') AND OR(\"c\") IS NULL", []⟩ := by
    decide +kernel
  obtain ⟨ts, hread, -, hsome⟩ := condition_faithful hd hfull hdraft
  obtain ⟨body, x, hbody, hx, -, hvalue⟩ := hsome (by simp [mixedClauses, conditionSteps,
    WhereStep.leavesAll, WhereStep.leaves])
  exact ⟨hd, hfull, hdraft, ts, body, x, hread, hbody, hx,
    fun ρ ↦ (Option.some.inj (hvalue ρ)).symm⟩

end Select

end SqlBuilder
