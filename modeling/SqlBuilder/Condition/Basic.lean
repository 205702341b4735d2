import SqlBuilder.Expr.Write

/-!
# Conditions

A condition is a tree of comparisons, joined by `AND` or by `OR`. A group of two or more children is
written in parentheses, so the precedence of the two never decides what a condition means. A group
with one child is written as that child, and the outermost group of a statement without parentheses.
-/

namespace SqlBuilder

/-- How conditions are joined. -/
inductive Combinator where
  | and
  | or
deriving DecidableEq, Repr

/-- Conditions are joined by `AND` unless something else is asked for. -/
instance : Inhabited Combinator := ⟨.and⟩

/-- The keyword between two conditions. -/
def Combinator.keyword : Combinator → String
  | .and => "AND"
  | .or => "OR"

/-- How two expressions are compared. -/
inductive Operator where
  | equal
  | notEqual
  | less
  | lessOrEqual
  | greater
  | greaterOrEqual
  | like
  | notLike
  | is
  | isNot
deriving DecidableEq, Repr

/-- The spelling of an operator. -/
def Operator.symbol : Operator → String
  | .equal => "="
  | .notEqual => "!="
  | .less => "<"
  | .lessOrEqual => "<="
  | .greater => ">"
  | .greaterOrEqual => ">="
  | .like => "LIKE"
  | .notLike => "NOT LIKE"
  | .is => "IS"
  | .isNot => "IS NOT"

/-- A comparison of two expressions. -/
structure Comparison where
  /-- The expression on the left. -/
  left : Expr
  /-- How the two are compared. -/
  operator : Operator
  /-- The expression on the right. -/
  right : Expr

/-- Writes a comparison. -/
def Comparison.write (d : Dialect) (c : Comparison) : Writer Unit := do
  c.left.write d .operand
  Writer.text " "
  Writer.text c.operator.symbol
  Writer.text " "
  c.right.write d .operand

/-- A condition. -/
inductive Predicate where
  /-- A comparison. -/
  | comparison (c : Comparison)
  /-- Conditions joined by one combinator. -/
  | group (combinator : Combinator) (children : List Predicate)

namespace Predicate

/-- The text between two conditions. -/
def separator (c : Combinator) : String :=
  " " ++ c.keyword ++ " "

/-- Writes parentheses around a group of the given size, if it needs them. -/
def writeEnclosed (size : Nat) (w : Writer Unit) : Writer Unit :=
  if 1 < size then do
    Writer.text "("
    w
    Writer.text ")"
  else w

mutual

/-- Writes a condition inside another one. -/
def write (d : Dialect) : Predicate → Writer Unit
  | .comparison c => c.write d
  | .group combinator children =>
    writeEnclosed children.length (Writer.joined (separator combinator) (writeAll d children))

/-- Writes each of the conditions. -/
def writeAll (d : Dialect) : List Predicate → List (Writer Unit)
  | [] => []
  | p :: ps => p.write d :: writeAll d ps

end

mutual

/-- The comparisons of a condition from left to right. -/
def leaves : Predicate → List Comparison
  | .comparison c => [c]
  | .group _ children => leavesAll children

/-- The comparisons of conditions from left to right. -/
def leavesAll : List Predicate → List Comparison
  | [] => []
  | p :: ps => p.leaves ++ leavesAll ps

end

end Predicate

end SqlBuilder
