import SqlBuilder.Proofs.Spelling.Condition
import SqlBuilder.Proofs.Symbols.Expr

/-!
# The symbols of conditions

A comparison is written with the words of its operator between its sides, and a condition with
connectives between its children. Only a group of two or more children is written in parentheses, so
a group with one child leaves no trace: a condition and what remains of it without such groups are
written with the same symbols.
-/

namespace SqlBuilder

open Reading SqlBuilder.Symbol

variable {d : Dialect} {f : Fragment}

/-! ## Comparisons -/

/-- The words that an operator is spelled with. -/
def Operator.words : Operator → List String
  | .equal => ["="]
  | .notEqual => ["!="]
  | .less => ["<"]
  | .lessOrEqual => ["<="]
  | .greater => [">"]
  | .greaterOrEqual => [">="]
  | .like => ["LIKE"]
  | .notLike => ["NOT", "LIKE"]
  | .is => ["IS"]
  | .isNot => ["IS", "NOT"]

theorem Operator.keywords_symbol (o : Operator) :
    Fragment.Keywords (" " ++ o.symbol ++ " ") o.words := by
  cases o <;> decide

/-- The symbols of a comparison. -/
def Comparison.symbols (d : Dialect) (c : Comparison) : List Symbol :=
  c.left.symbols d ++ (c.operator.words.map word ++ c.right.symbols d)

theorem Comparison.writes (hd : d.Regular) {c : Comparison} (h : c.fragment d = .ok f) :
    f.Writes d (c.symbols d) := by
  obtain ⟨l, r, hl, hr, rfl⟩ := fragment_eq_ok_iff.mp h
  have hright := (Expr.writes hd hr).keywords _ _ c.operator.keywords_symbol
  exact (Expr.writes hd hl).append (hright.merge.merge.trails (by decide))

/-! ## Conditions -/

namespace Symbol

/-- Parentheses around the symbols of a group of the given size, if it needs them. -/
def enclosed (size : Nat) (ss : List Symbol) : List Symbol :=
  if 1 < size then .token .opening :: (ss ++ [.token .closing]) else ss

end Symbol

namespace Predicate

mutual

/-- The symbols of a condition. -/
def symbols (d : Dialect) : Predicate → List Symbol
  | .comparison c => c.symbols d
  | .group combinator children =>
    Symbol.enclosed children.length (separated (word combinator.keyword) (symbolsAll d children))

/-- The symbols of each of the conditions. -/
def symbolsAll (d : Dialect) : List Predicate → List (List Symbol)
  | [] => []
  | p :: ps => p.symbols d :: symbolsAll d ps

end

theorem symbolsAll_eq_map (ps : List Predicate) : symbolsAll d ps = ps.map (symbols d) := by
  induction ps with
  | nil => rfl
  | cons p ps ih => rw [symbolsAll, ih, List.map_cons]

theorem spells_separator (c : Combinator) :
    Fragment.Spells (separator c) [.word c.keyword.toList] := by
  cases c with
  | and => exact @Fragment.spells_of_getLast? _ ' ' (by decide) rfl
  | or => exact @Fragment.spells_of_getLast? _ ' ' (by decide) rfl

theorem writes_joined {combinator : Combinator} {fs : List Fragment} {sss : List (List Symbol)}
    (h : List.Forall₂ (Fragment.Writes d) fs sss) :
    (Fragment.joined (separator combinator) fs).Writes d
      (separated (word combinator.keyword) sss) := by
  have htext : Fragment.delimits (separator combinator) ∧
      isPlaceholder (.word combinator.keyword.toList) = false := by
    cases combinator <;> decide
  exact Fragment.Writes.joined (spells_separator combinator) htext.1 htext.2 h

theorem writes_enclosed {size : Nat} {ss : List Symbol} (h : f.Writes d ss) :
    (enclosed size f).Writes d (Symbol.enclosed size ss) := by
  rw [enclosed, Symbol.enclosed]
  split
  · exact h.closed.text Fragment.spells_opening (by simp [isPlaceholder])
  · exact h

theorem writes (hd : d.Regular) {p : Predicate} (h : p.fragment d = .ok f) :
    f.Writes d (p.symbols d) := by
  induction p using Predicate.induction generalizing f with
  | comparison c => exact Comparison.writes hd h
  | group combinator children ih =>
    obtain ⟨fs, hfs, rfl⟩ := fragment_group_eq_ok_iff.mp h
    rw [symbols, symbolsAll_eq_map]
    exact writes_enclosed (writes_joined (forall₂_map_of_forall₂ hfs fun p hp f hf ↦ ih p hp hf))

end Predicate

/-- The symbols of what was collected, as they stand behind `WHERE`. -/
def WhereGroup.symbols (d : Dialect) (g : WhereGroup) : List Symbol :=
  separated (word g.combinator.keyword) (g.children.map (Predicate.symbols d))

theorem WhereGroup.writes (hd : d.Regular) {g : WhereGroup} (h : g.fragment d = .ok f) :
    f.Writes d (g.symbols d) := by
  obtain ⟨fs, hfs, rfl⟩ := fragment_eq_ok_iff.mp h
  exact Predicate.writes_joined (forall₂_map_of_forall₂ hfs fun p _ f hf ↦ Predicate.writes hd hf)

end SqlBuilder
