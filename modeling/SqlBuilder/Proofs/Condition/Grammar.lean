import SqlBuilder.Proofs.Condition.Faithful
import SqlBuilder.Proofs.Lossless.Expr

/-!
# The grammar of conditions

A condition is a chain of operands with a connective between any two of them, and an operand is a
comparison or a condition in parentheses. The rules are stated on tokens and know nothing of the
reader, which reads more than they allow: it takes any run of tokens for a comparison. So what
follows the rules is read as a condition, and where reading fails no rule was followed.

Reading fails where an operand is missing. What a tree with an empty group writes leaves the reader
in front of an operand, if it can be read at all: nothing can stand behind it, neither a connective
nor a parenthesis nor the end.
-/

namespace SqlBuilder

open Reading SqlBuilder.Symbol

/-! ## Rules -/

namespace Reading

variable {ts us : List Token}

/-- The tokens are an expression. -/
inductive IsTerm : List Token → Prop
  /-- A column. -/
  | name (s : String) : IsTerm [.name s]
  /-- A column behind its table. -/
  | qualified (table s : String) : IsTerm [.name table, .word ['.'], .name s]
  /-- A string literal. -/
  | string (s : String) : IsTerm [.string s]
  /-- Any other literal, or a placeholder: a word that means nothing else in a condition. -/
  | word {w : List Char} (hreserved : (Token.word w).isReserved = false)
    (hoperator : ∀ (o : Operator), ∀ s ∈ o.words, w ≠ s.toList) : IsTerm [.word w]
  /-- A call, with commas between its arguments. -/
  | call (w : List Char) {tss : List (List Token)} (harguments : ∀ ts ∈ tss, IsTerm ts) :
    IsTerm (.call w :: ([.comma].intercalate tss ++ [.closing]))

/-- The tokens of an operator. -/
def operatorTokens (o : Operator) : List Token :=
  o.words.map fun s ↦ .word s.toList

/-- The tokens are a comparison: an operator between two expressions. -/
inductive IsComparison : List Token → Prop
  | mk (o : Operator) {left right : List Token} (hleft : IsTerm left) (hright : IsTerm right) :
    IsComparison (left ++ (operatorTokens o ++ right))

/-- The tokens of operands, with a connective in front of each but the first. -/
def chain (first : List Token) (rest : List (Combinator × List Token)) : List Token :=
  first ++ rest.flatMap fun r ↦ .word r.1.keyword.toList :: r.2

/-- The tokens are an operand. -/
inductive IsOperand : List Token → Prop
  /-- A comparison. -/
  | comparison {ts : List Token} (h : IsComparison ts) : IsOperand ts
  /-- A condition in parentheses. -/
  | enclosed {first : List Token} {rest : List (Combinator × List Token)}
    (hfirst : IsOperand first) (hrest : ∀ r ∈ rest, IsOperand r.2) :
    IsOperand (.opening :: (chain first rest ++ [.closing]))

/-- The tokens are a condition. -/
def IsCondition (ts : List Token) : Prop :=
  ∃ first rest, IsOperand first ∧ (∀ r ∈ rest, IsOperand r.2) ∧ ts = chain first rest

/-! ## What follows the rules is read -/

theorem continues_intercalate {tss : List (List Token)} (h : ∀ ts ∈ tss, Continues 0 ts) :
    Continues 1 ([.comma].intercalate tss) := by
  induction tss with
  | nil => exact Continues.nil
  | cons ts tss ih =>
    obtain ⟨hts, htss⟩ := List.forall_mem_cons.mp h
    have hcomma : Continues 1 [.comma] := Continues.token (fun _ ↦ rfl) (Or.inl Nat.one_pos)
    by_cases hnil : tss = []
    · subst hnil
      simpa using hts.mono (Nat.zero_le 1)
    · rw [List.intercalate_cons_of_ne_nil hnil, List.append_assoc]
      exact (hts.mono (Nat.zero_le 1)).append (hcomma.append (ih htss))

theorem IsTerm.continues (h : IsTerm ts) : Continues 0 ts := by
  have hname (s : String) : Continues 0 [.name s] :=
    Expr.continues_token rfl (fun _ ↦ rfl) (by simp)
  induction h with
  | name s => exact hname s
  | qualified table s =>
    have hpoint : Continues 0 [.word ['.']] :=
      Expr.continues_token (by decide) (fun _ ↦ rfl) (by simp)
    exact (hname table).append (hpoint.append (hname s))
  | string s => exact Expr.continues_token rfl (fun _ ↦ rfl) (by simp)
  | word hreserved _ => exact Expr.continues_token hreserved (fun _ ↦ rfl) (by simp)
  | call w _ ih => exact Continues.call w (continues_intercalate ih)

/-- The tokens are read as an operand wherever one is due. -/
def IsRead (ts : List Token) : Prop :=
  ∀ outer level, ∃ (operand : Operand) (x : Formula),
    Reader.steps ⟨outer, level, .tokens [] 0⟩ ts = some ⟨outer, level, operand⟩ ∧
    operand.formula? = some x

theorem Reads.isRead {x : Formula} (h : Reads ts x) : IsRead ts :=
  fun outer level ↦ (h outer level).imp fun _ hoperand ↦ ⟨x, hoperand⟩

theorem IsComparison.isRead (h : IsComparison ts) : IsRead ts := by
  obtain @⟨o, left, right, hleft, hright⟩ := h
  have hoperator : Continues 0 (operatorTokens o) := by
    have hwords := Comparison.continues_operator (d := .sqlite) o 0
    have hsymbols : o.words.map Symbol.word = (operatorTokens o).map .token := by
      simp [operatorTokens, word]
    rwa [hsymbols, numbered_map_token] at hwords
  have hne : left ++ (operatorTokens o ++ right) ≠ [] := by
    cases o <;> simp [operatorTokens, Operator.words]
  exact (Reads.comparison (hleft.continues.append (hoperator.append hright.continues)) hne).isRead

/-- Operands that are read one by one are read with any connectives between them. -/
theorem steps_chain {first : List Token} {rest : List (Combinator × List Token)}
    (hfirst : IsRead first) (hrest : ∀ r ∈ rest, IsRead r.2) (outer : List Level) (level : Level) :
    ∃ (level' : Level) (operand : Operand) (x : Formula),
      Reader.steps ⟨outer, level, .tokens [] 0⟩ (chain first rest)
        = some ⟨outer, level', operand⟩ ∧ operand.formula? = some x := by
  obtain ⟨operand, x, hsteps, hx⟩ := hfirst outer level
  induction rest generalizing first level operand x with
  | nil => exact ⟨level, operand, x, by simpa [chain] using hsteps, hx⟩
  | cons r rest ih =>
    obtain ⟨hr, hrest⟩ := List.forall_mem_cons.mp hrest
    obtain ⟨operand', y, hsteps', hy⟩ := hr outer (level.after x r.1)
    obtain ⟨level', last, z, hall, hz⟩ := ih hr hrest (level.after x r.1) operand' y hsteps' hy
    refine ⟨level', last, z, ?_, hz⟩
    rw [chain, List.flatMap_cons, Reader.steps_append, hsteps, Option.bind_some, List.cons_append,
      Reader.steps_cons, Reader.step_connective (Predicate.connective_keyword r.1) hx,
      Option.bind_some]
    exact hall

theorem IsOperand.isRead (h : IsOperand ts) : IsRead ts := by
  induction h with
  | comparison h => exact h.isRead
  | @enclosed first rest _ _ ihfirst ihrest =>
    intro outer level
    obtain ⟨inner, operand, x, hsteps, hx⟩ := steps_chain ihfirst ihrest (level :: outer) {}
    have hopen : Reader.step ⟨outer, level, .tokens [] 0⟩ .opening
        = some ⟨level :: outer, {}, .tokens [] 0⟩ := rfl
    refine ⟨.enclosed (inner.finish x), _, ?_, rfl⟩
    rw [Reader.steps_cons, hopen, Option.bind_some, Reader.steps_append, hsteps, Option.bind_some,
      Reader.steps_cons, Reader.step_closing hx]
    rfl

/-- What follows the rules is read as a condition. -/
theorem IsCondition.readCondition_ne_none (h : IsCondition ts) : readCondition ts ≠ none := by
  obtain ⟨first, rest, hfirst, hrest, rfl⟩ := h
  obtain ⟨level, operand, x, hsteps, hx⟩ :=
    steps_chain hfirst.isRead (fun r hr ↦ (hrest r hr).isRead) [] {}
  rw [readCondition, hsteps, Option.bind_some, Reader.finish, hx]
  simp

/-! ## Missing operands -/

/-- Behind the tokens an operand is still due, if they can be read in front of one at all. -/
def Dangles (ts : List Token) : Prop :=
  ∀ outer level s, Reader.steps ⟨outer, level, .tokens [] 0⟩ ts = some s → s.operand = .tokens [] 0

theorem dangles_nil : Dangles [] := by
  intro outer level s h
  obtain rfl := Option.some.inj h
  rfl

/-- Where an operand is due there is no connective and no closing parenthesis. -/
theorem Reader.step_of_missing {s : Reader} (h : s.operand = .tokens [] 0) {t : Token}
    (ht : t.connective?.isSome ∨ t = .closing) : s.step t = none := by
  have hinside : s.operand.isInside = false := by rw [h]; rfl
  have hformula : s.operand.formula? = none := by rw [h]; rfl
  unfold step
  rw [hinside]
  rcases ht with hconnective | rfl
  · obtain ⟨c, hc⟩ := Option.isSome_iff_exists.mp hconnective
    simp [hc, connect, hformula]
  · have hnone : Token.closing.connective? = none := rfl
    simp only [hnone, ascend, hformula]
    cases s.outer <;> rfl

/-- Nothing is read of tokens that go on where an operand is due. -/
theorem Dangles.steps_append (h : Dangles ts) {t : Token}
    (ht : t.connective?.isSome ∨ t = .closing) (outer : List Level) (level : Level) :
    Reader.steps ⟨outer, level, .tokens [] 0⟩ (ts ++ t :: us) = none := by
  rw [Reader.steps_append]
  cases hsteps : Reader.steps ⟨outer, level, .tokens [] 0⟩ ts with
  | none => rfl
  | some s =>
    rw [Option.bind_some, Reader.steps_cons, Reader.step_of_missing (h _ _ s hsteps) ht]
    rfl

theorem dangles_of_steps_eq_none
    (h : ∀ outer level, Reader.steps ⟨outer, level, .tokens [] 0⟩ ts = none) : Dangles ts := by
  intro outer level s hs
  rw [h] at hs
  exact nomatch hs

/-- What goes on with a connective is not read at all. -/
theorem Dangles.append (h : Dangles ts) {t : Token} (ht : t.connective?.isSome)
    (us : List Token) : Dangles (ts ++ t :: us) := by
  apply dangles_of_steps_eq_none
  intro outer level
  exact h.steps_append (Or.inl ht) outer level

theorem Dangles.enclosed (h : Dangles ts) : Dangles (.opening :: (ts ++ [.closing])) := by
  apply dangles_of_steps_eq_none
  intro outer level
  have hopen : Reader.step ⟨outer, level, .tokens [] 0⟩ .opening
      = some ⟨level :: outer, {}, .tokens [] 0⟩ := rfl
  rw [Reader.steps_cons, hopen, Option.bind_some, h.steps_append (Or.inr rfl)]

/-- Behind an operand and a connective an operand is due again. -/
theorem IsRead.dangles_append (hread : IsRead ts) {t : Token} {c : Combinator}
    (ht : t.connective? = some c) (h : Dangles us) : Dangles (ts ++ t :: us) := by
  intro outer level s hs
  obtain ⟨operand, x, hsteps, hx⟩ := hread outer level
  rw [Reader.steps_append, hsteps, Option.bind_some, Reader.steps_cons,
    Reader.step_connective ht hx, Option.bind_some] at hs
  exact h _ _ s hs

/-- What ends in front of an operand is no condition. -/
theorem Dangles.not_isCondition (h : Dangles ts) : ¬IsCondition ts := by
  intro hcondition
  apply hcondition.readCondition_ne_none
  rw [readCondition]
  cases hsteps : Reader.steps {} ts with
  | none => rfl
  | some s =>
    have hoperand := h [] {} s hsteps
    rw [Option.bind_some, Reader.finish, hoperand]
    simp [Operand.formula?]

end Reading

end SqlBuilder
