import SqlBuilder.Value

/-!
# Expressions

An expression is a column, a literal, a bound value or a call. Literals are written into the text of
a statement; only a bound value takes a placeholder.
-/

namespace SqlBuilder

/-- A constant that is written into the statement. -/
inductive Literal where
  /-- The default of the column that is being written. -/
  | default
  /-- The absent value. -/
  | null
  /-- A text. -/
  | string (s : String)
  /-- A whole number of 64 bits. -/
  | integer (n : Int64)
  /-- A floating-point number. -/
  | float (x : Binary64)
  /-- A truth value. -/
  | boolean (b : Bool)
  /-- The wildcard that stands for all columns. -/
  | all
deriving DecidableEq, Repr

/-- A column, possibly qualified by its table. -/
structure ColumnRef where
  /-- The table, if the reference is qualified. -/
  table : Option String := none
  /-- The column. -/
  name : String
deriving DecidableEq, Repr

/-- An expression. -/
inductive Expr where
  /-- The content of a column. -/
  | column (c : ColumnRef)
  /-- A constant in the text. -/
  | literal (l : Literal)
  /-- A value that travels beside the text. -/
  | bind (v : Value)
  /-- A call of the named function. -/
  | call (function : String) (arguments : List Expr)

namespace Expr

/-- The expression that a bare name stands for: the wildcard, or the column of that name. -/
def ofName (name : String) : Expr :=
  if name = "*" then .literal .all else .column { name }

/-- A bound value, given by anything that can be bound. -/
def ofValue {α : Type} [ToValue α] (a : α) : Expr :=
  .bind (toValue a)

mutual

/-- The number of placeholders that the expression takes. -/
def bindCount : Expr → Nat
  | .column _ => 0
  | .literal _ => 0
  | .bind _ => 1
  | .call _ arguments => bindCountAll arguments

/-- The number of placeholders that the expressions take together. -/
def bindCountAll : List Expr → Nat
  | [] => 0
  | e :: es => e.bindCount + bindCountAll es

end

end Expr

end SqlBuilder
