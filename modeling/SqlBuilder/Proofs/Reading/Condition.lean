import SqlBuilder.Condition.Basic
import SqlBuilder.Proofs.Condition.Truth
import SqlBuilder.Proofs.Number.Numeral
import SqlBuilder.Proofs.Reading.Token
import Mathlib

/-!
# Conditions as SQL reads them

The third pass reads the condition of a statement. What stands between connectives outside calls and
parentheses is a comparison, whatever its words are. Parentheses come first, `AND` binds tighter
than `OR`, and each of the two joins from left to right.

The reader takes one token after the other. It remembers, for each parenthesis that is open, the
disjunction read so far and the conjunction that is being read, and it knows nothing about who wrote
the condition.
-/

namespace SqlBuilder.Reading

/-! ## Keywords -/

/-- The token is a keyword. Keywords have no case. -/
def Token.isKeyword (keyword : String) : Token → Bool
  | .word w => w.map Char.toUpper == keyword.toList
  | _ => false

/-- The keywords of the clauses that can stand around a condition. -/
def clauseWords : List String :=
  ["WHERE", "GROUP", "ORDER", "LIMIT", "OFFSET"]

/-- The token begins a clause. -/
def Token.isClauseWord (t : Token) : Bool :=
  clauseWords.any t.isKeyword

/-- The connective that the token is. -/
def Token.connective? (t : Token) : Option Combinator :=
  if t.isKeyword "AND" then some .and else if t.isKeyword "OR" then some .or else none

/-- The token is a keyword that a reader of conditions looks for. -/
def Token.isReserved (t : Token) : Bool :=
  t.isClauseWord || t.connective?.isSome

/-- What stands between the first `WHERE` and the clause behind it. -/
def conditionBody? (ts : List Token) : Option (List Token) :=
  match ts.dropWhile fun t ↦ !t.isKeyword "WHERE" with
  | [] => none
  | _ :: rest => some (rest.takeWhile fun t ↦ !t.isClauseWord)

theorem Token.isReserved_eq_false_iff {t : Token} :
    t.isReserved = false ↔ t.isClauseWord = false ∧ t.connective? = none := by
  simp [isReserved]

theorem conditionBody?_eq_some {front body behind : List Token} {t : Token}
    (hfront : ∀ t ∈ front, t.isKeyword "WHERE" = false) (ht : t.isKeyword "WHERE")
    (hbody : ∀ t ∈ body, t.isClauseWord = false) (hbehind : ∀ t ∈ behind.head?, t.isClauseWord) :
    conditionBody? (front ++ t :: (body ++ behind)) = some body := by
  have hdrop : (front ++ t :: (body ++ behind)).dropWhile (fun t ↦ !t.isKeyword "WHERE")
      = t :: (body ++ behind) := by
    rw [List.dropWhile_append_of_pos fun t ht ↦ by rw [hfront t ht]; rfl]
    simp [ht]
  rw [conditionBody?, hdrop]
  simp only [Option.some.injEq]
  rw [List.takeWhile_append_of_pos fun t ht ↦ by rw [hbody t ht]; rfl]
  cases behind with
  | nil => simp
  | cons t behind => simp [hbehind t rfl]

theorem isAlpha_toUpper_of_isDigit {c : Char} (h : c.isDigit) : c.toUpper.isAlpha = false := by
  rw [Char.isAlpha_toUpper_eq_isAlpha]
  exact isAlpha_eq_false_of_isDigit h

/-- Every keyword begins with a letter. -/
theorem Token.not_isReserved_of_head {c : Char} (h : c.toUpper.isAlpha = false) (cs : List Char) :
    (Token.word (c :: cs)).isReserved = false := by
  have hkeyword (k : String) (hk : k.toList.head?.any Char.isAlpha) :
      (Token.word (c :: cs)).isKeyword k = false := by
    cases hs : k.toList with
    | nil => simp [hs] at hk
    | cons a as =>
      have hne : c.toUpper ≠ a := by
        rintro rfl
        simp [hs, h] at hk
      simp [isKeyword, hs, hne]
  rw [isReserved_eq_false_iff]
  constructor
  · simp only [isClauseWord, List.any_eq_false, Bool.not_eq_true]
    intro k hk
    exact hkeyword k (by revert k; decide)
  · simp [connective?, hkeyword "AND" (by decide), hkeyword "OR" (by decide)]

/-! ## Formulas -/

/-- A condition as it was read. -/
inductive Formula where
  /-- The tokens of a comparison. -/
  | comparison (ts : List Token)
  /-- Two conditions with a connective between them. -/
  | join (c : Combinator) (left right : Formula)
deriving DecidableEq, Repr

namespace Formula

/-- The comparisons from left to right. -/
def atoms : Formula → List (List Token)
  | .comparison ts => [ts]
  | .join _ x y => x.atoms ++ y.atoms

/-- The value of a condition with `n` comparisons to its left. -/
def value (ρ : Nat → Truth) (n : Nat) : Formula → Truth
  | .comparison _ => ρ n
  | .join c x y => c.apply (x.value ρ n) (y.value ρ (n + x.atoms.length))

/-- Joins a condition to what was read to its left, if anything was. -/
def joined (c : Combinator) : Option Formula → Formula → Formula
  | none, y => y
  | some x, y => .join c x y

end Formula

/-! ## The reader -/

/-- What was read at one level of parentheses in front of the operand at hand. -/
structure Level where
  /-- What stands in front of the last `OR`. -/
  disjunction : Option Formula := none
  /-- What stands between the last `OR` and the last `AND`. -/
  conjunction : Option Formula := none

/-- The condition at a level, if it ends with the operand. -/
def Level.finish (l : Level) (x : Formula) : Formula :=
  .joined .or l.disjunction (.joined .and l.conjunction x)

/-- The level behind an operand and a connective. -/
def Level.after (l : Level) (x : Formula) : Combinator → Level
  | .and => { l with conjunction := some (.joined .and l.conjunction x) }
  | .or => { disjunction := some (l.finish x) }

/-- What was read of an operand. -/
inductive Operand where
  /-- The tokens of a comparison, inside of so many calls. -/
  | tokens (ts : List Token) (depth : Nat)
  /-- A condition in parentheses. -/
  | enclosed (x : Formula)

/-- The condition that the operand is, if it can end here. -/
def Operand.formula? : Operand → Option Formula
  | .tokens (t :: ts) 0 => some (.comparison (t :: ts))
  | .tokens _ _ => none
  | .enclosed x => some x

/-- A call that belongs to the operand is not closed. -/
def Operand.isInside : Operand → Bool
  | .tokens _ depth => depth != 0
  | .enclosed _ => false

/-- Nothing was read of the operand. -/
def Operand.isMissing : Operand → Bool
  | .tokens ts depth => ts.isEmpty && depth == 0
  | .enclosed _ => false

/-- Inside of how many calls one is behind the token. -/
def Token.depthBehind (depth : Nat) : Token → Nat
  | .call _ => depth + 1
  | .opening => depth + 1
  | .closing => depth - 1
  | _ => depth

/-- The operand with one more token, unless it is already closed. -/
def Operand.extend (t : Token) : Operand → Option Operand
  | .tokens ts depth => some (.tokens (ts ++ [t]) (t.depthBehind depth))
  | .enclosed _ => none

/-- A reader in the middle of a condition. -/
structure Reader where
  /-- The levels of the parentheses that are open, from the inside. -/
  outer : List Level := []
  /-- The level at hand. -/
  level : Level := {}
  /-- The operand at hand. -/
  operand : Operand := .tokens [] 0

namespace Reader

/-- Reads a token that belongs to the operand. -/
def extend (s : Reader) (t : Token) : Option Reader :=
  (s.operand.extend t).map fun operand ↦ { s with operand }

/-- Reads a connective. -/
def connect (s : Reader) (c : Combinator) : Option Reader :=
  s.operand.formula?.map fun x ↦ { s with level := s.level.after x c, operand := .tokens [] 0 }

/-- Reads a parenthesis that opens a condition. -/
def descend (s : Reader) : Reader :=
  { outer := s.level :: s.outer }

/-- Reads a parenthesis that closes a condition. -/
def ascend (s : Reader) : Option Reader :=
  match s.outer, s.operand.formula? with
  | level :: outer, some x => some { outer, level, operand := .enclosed (s.level.finish x) }
  | _, _ => none

/-- Reads one token. Inside of calls everything belongs to the comparison. -/
def step (s : Reader) (t : Token) : Option Reader :=
  if s.operand.isInside then s.extend t
  else match t.connective? with
    | some c => s.connect c
    | none => match t with
      | .opening => if s.operand.isMissing then some s.descend else s.extend t
      | .closing => s.ascend
      | .comma => none
      | _ => s.extend t

/-- Reads tokens in their order. -/
def steps (s : Reader) (ts : List Token) : Option Reader :=
  ts.foldlM step s

/-- The condition that was read, if it can end here. -/
def finish (s : Reader) : Option Formula :=
  if s.outer.isEmpty then s.operand.formula?.map s.level.finish else none

end Reader

/-- The condition that the tokens are read as. -/
def readCondition (ts : List Token) : Option Formula :=
  (Reader.steps {} ts).bind Reader.finish

/-! ## Operands -/

section Operands

variable {ts us : List Token}

theorem Reader.steps_append (s : Reader) (ts us : List Token) :
    s.steps (ts ++ us) = (s.steps ts).bind fun s ↦ s.steps us :=
  List.foldlM_append

theorem Reader.steps_cons (s : Reader) (t : Token) (ts : List Token) :
    s.steps (t :: ts) = (s.step t).bind fun s ↦ s.steps ts :=
  List.foldlM_cons

/-- Inside of at least `depth` calls the tokens belong to the operand, and behind them one is inside
of as many calls as before. -/
def Continues (least : Nat) (ts : List Token) : Prop :=
  ∀ outer level us depth, least ≤ depth →
    Reader.steps ⟨outer, level, .tokens us depth⟩ ts = some ⟨outer, level, .tokens (us ++ ts) depth⟩

theorem Continues.mono {least least' : Nat} (h : Continues least ts) (hle : least ≤ least') :
    Continues least' ts := fun outer level us depth hdepth ↦
  h outer level us depth (hle.trans hdepth)

theorem Continues.nil {least : Nat} : Continues least [] := by
  intro outer level us depth _
  simp [Reader.steps]

theorem Continues.append {least : Nat} (h : Continues least ts) (h' : Continues least us) :
    Continues least (ts ++ us) := by
  intro outer level vs depth hdepth
  rw [Reader.steps_append, h outer level vs depth hdepth, Option.bind_some,
    h' outer level _ depth hdepth, List.append_assoc]

/-- A token that is neither a connective nor a separator belongs to the operand. -/
theorem Reader.step_operand {outer : List Level} {level : Level} {us : List Token} {depth : Nat}
    {t : Token} (h : depth ≠ 0 ∨ t.connective? = none ∧ t ≠ .opening ∧ t ≠ .closing ∧ t ≠ .comma) :
    Reader.step ⟨outer, level, .tokens us depth⟩ t
      = some ⟨outer, level, .tokens (us ++ [t]) (t.depthBehind depth)⟩ := by
  -- Inside of a call no token is special.
  by_cases hdepth : depth = 0
  · obtain ⟨hconnective, hopening, hclosing, hcomma⟩ := h.resolve_left (by simpa using hdepth)
    subst hdepth
    unfold step
    rw [hconnective]
    cases t with
    | opening => exact absurd rfl hopening
    | closing => exact absurd rfl hclosing
    | comma => exact absurd rfl hcomma
    | _ => rfl
  · have hinside : (Operand.tokens us depth).isInside := by simpa [Operand.isInside] using hdepth
    unfold step
    rw [if_pos hinside]
    rfl

theorem Continues.token {least : Nat} {t : Token} (hdepth : ∀ depth, t.depthBehind depth = depth)
    (h : 0 < least ∨ t.connective? = none ∧ t ≠ .opening ∧ t ≠ .closing ∧ t ≠ .comma) :
    Continues least [t] := by
  intro outer level us depth hleast
  rw [Reader.steps_cons, Reader.step_operand (h.imp_left fun hpos ↦ by omega), hdepth]
  rfl

theorem Continues.call (w : List Char) (h : Continues 1 ts) :
    Continues 0 (.call w :: (ts ++ [.closing])) := by
  intro outer level us depth _
  have hcall : (Token.call w).connective? = none := rfl
  rw [Reader.steps_cons, Reader.step_operand (Or.inr ⟨hcall, by simp, by simp, by simp⟩),
    Option.bind_some, Token.depthBehind, Reader.steps_append,
    h outer level _ _ (Nat.le_add_left 1 depth), Option.bind_some, Reader.steps_cons,
    Reader.step_operand (Or.inl (Nat.succ_ne_zero depth))]
  simp [Token.depthBehind, Reader.steps]

end Operands

/-! ## Conditions -/

section Conditions

variable {c : Combinator} {t : Token} {ts : List Token} {tss : List (List Token)} {x : Formula}
  {xs : List Formula}

/-- Wherever an operand is expected, the tokens are read as the condition. -/
def Reads (ts : List Token) (x : Formula) : Prop :=
  ∀ outer level, ∃ operand : Operand,
    Reader.steps ⟨outer, level, .tokens [] 0⟩ ts = some ⟨outer, level, operand⟩ ∧
    operand.formula? = some x

theorem Reads.comparison (h : Continues 0 ts) (hne : ts ≠ []) : Reads ts (.comparison ts) := by
  intro outer level
  refine ⟨.tokens ts 0, h outer level [] 0 (Nat.zero_le 0), ?_⟩
  obtain ⟨t, ts, rfl⟩ := List.exists_cons_of_ne_nil hne
  rfl

/-- The level at which only one connective was read so far. -/
def Level.joining (c : Combinator) (x : Option Formula) : Level :=
  match c with
  | .and => { conjunction := x }
  | .or => { disjunction := x }

theorem Level.finish_joining (c : Combinator) (x : Option Formula) (y : Formula) :
    (joining c x).finish y = .joined c x y := by
  cases c <;> rfl

theorem Level.after_joining (c : Combinator) (x : Option Formula) (y : Formula) :
    (joining c x).after y c = joining c (some (.joined c x y)) := by
  cases c <;> rfl

/-- An operand that can end has all its calls closed. -/
theorem Operand.isInside_eq_false {operand : Operand} (hx : operand.formula? = some x) :
    operand.isInside = false := by
  cases operand with
  | enclosed y => rfl
  | tokens ts depth =>
    cases depth with
    | zero => rfl
    | succ depth => cases ts <;> simp [formula?] at hx

/-- A connective ends the operand in front of it. -/
theorem Reader.step_connective {outer : List Level} {level : Level} {operand : Operand}
    (ht : t.connective? = some c) (hx : operand.formula? = some x) :
    Reader.step ⟨outer, level, operand⟩ t = some ⟨outer, level.after x c, .tokens [] 0⟩ := by
  unfold step
  simp [Operand.isInside_eq_false hx, ht, connect, hx]

/-- A closing parenthesis ends the level at hand. -/
theorem Reader.step_closing {outer : List Level} {level inner : Level} {operand : Operand}
    (hx : operand.formula? = some x) :
    Reader.step ⟨level :: outer, inner, operand⟩ .closing
      = some ⟨outer, level, .enclosed (inner.finish x)⟩ := by
  have hconnective : Token.closing.connective? = none := rfl
  unfold step
  simp [Operand.isInside_eq_false hx, hconnective, ascend, hx]

/-- Operands with the same connective in front of each are joined from left to right. -/
theorem Reader.steps_joined (ht : t.connective? = some c) (h : List.Forall₂ Reads tss xs)
    (outer : List Level) {y : Option Formula} {operand : Operand} (hx : operand.formula? = some x) :
    ∃ y' operand' x', Reader.steps ⟨outer, .joining c y, operand⟩ (tss.flatMap (t :: ·))
        = some ⟨outer, .joining c y', operand'⟩ ∧ operand'.formula? = some x' ∧
      Formula.joined c y' x' = xs.foldl (.join c) (.joined c y x) := by
  -- The invariant is the level, at which no other connective was read so far.
  induction h generalizing y operand x with
  | nil => exact ⟨y, operand, x, by simp [Reader.steps], hx, rfl⟩
  | @cons ts x₁ tss xs hread _ ih =>
    obtain ⟨operand₁, hsteps, hx₁⟩ := hread outer (.joining c (some (.joined c y x)))
    obtain ⟨y', operand', x', hrest, hx', hjoined⟩ := @ih x₁ (some (.joined c y x)) operand₁ hx₁
    refine ⟨y', operand', x', ?_, hx', hjoined⟩
    rw [List.flatMap_cons, List.cons_append, Reader.steps_cons, Reader.step_connective ht hx,
      Option.bind_some, Level.after_joining, Reader.steps_append, hsteps, Option.bind_some, hrest]

/-- Operands with the same connective between them, as the whole of a condition. -/
theorem steps_separated (ht : t.connective? = some c) (hfirst : Reads ts x)
    (h : List.Forall₂ Reads tss xs) (outer : List Level) :
    ∃ level operand x', Reader.steps ⟨outer, {}, .tokens [] 0⟩ (ts ++ tss.flatMap (t :: ·))
        = some ⟨outer, level, operand⟩ ∧ operand.formula? = some x' ∧
      level.finish x' = xs.foldl (.join c) x := by
  -- In front of the first connective the level is that of either one.
  have hstart : ({} : Level) = .joining c none := by cases c <;> rfl
  obtain ⟨operand, hsteps, hx⟩ := hfirst outer {}
  obtain ⟨y', operand', x', hrest, hx', hjoined⟩ :=
    @Reader.steps_joined c t tss x xs ht h outer none operand hx
  refine ⟨.joining c y', operand', x', ?_, hx', ?_⟩
  · rw [Reader.steps_append, hsteps, Option.bind_some, hstart, hrest]
  · rw [Level.finish_joining, hjoined, Formula.joined]

theorem readCondition_separated (ht : t.connective? = some c) (hfirst : Reads ts x)
    (h : List.Forall₂ Reads tss xs) :
    readCondition (ts ++ tss.flatMap (t :: ·)) = some (xs.foldl (.join c) x) := by
  obtain ⟨level, operand, x', hsteps, hx', hfinish⟩ := steps_separated ht hfirst h []
  rw [readCondition, hsteps, Option.bind_some, Reader.finish, hx']
  simp [hfinish]

/-- In parentheses they are one operand. -/
theorem Reads.enclosed (ht : t.connective? = some c) (hfirst : Reads ts x)
    (h : List.Forall₂ Reads tss xs) :
    Reads (.opening :: (ts ++ tss.flatMap (t :: ·) ++ [.closing])) (xs.foldl (.join c) x) := by
  intro outer level
  obtain ⟨inner, operand, x', hsteps, hx', hfinish⟩ := steps_separated ht hfirst h (level :: outer)
  have hopen : Reader.step ⟨outer, level, .tokens [] 0⟩ .opening
      = some ⟨level :: outer, {}, .tokens [] 0⟩ := rfl
  refine ⟨.enclosed (xs.foldl (.join c) x), ?_, rfl⟩
  rw [Reader.steps_cons, hopen, Option.bind_some, Reader.steps_append, hsteps, Option.bind_some,
    Reader.steps_cons, Reader.step_closing hx', hfinish]
  rfl

end Conditions

end SqlBuilder.Reading
