import SqlBuilder.Draft
import SqlBuilder.Schema.Column

/-! # Creating a table -/

namespace SqlBuilder

/-- `CREATE TABLE`. -/
structure CreateTable where
  /-- The table. -/
  table : String
  /-- A table that exists already is no fault. -/
  ifNotExists : Bool := false
  /-- The columns, in their order. -/
  columns : List ColumnDefinition := []
deriving DecidableEq, Repr

namespace CreateTable

/-- What can be said about creating a table. -/
inductive Clause where
  | ifNotExists
  | column (c : ColumnDefinition)
deriving DecidableEq, Repr

/-- The statement with one more clause. A column is tried out on its own before it is taken. -/
def accept (d : Dialect) (s : CreateTable) : Clause → Except BuildError CreateTable
  | .ifNotExists =>
    if d.hasIfNotExists then .ok { s with ifNotExists := true }
    else .error (.unsupportedFeature d.name .createTableIfNotExists)
  | .column c => do
    c.validate d
    return { s with columns := s.columns ++ [c] }

/-- Writes the statement. -/
def write (d : Dialect) (s : CreateTable) : Writer Unit := do
  if s.columns.isEmpty then throw (.noColumns .createTable)
  Writer.text "CREATE TABLE "
  Writer.optional s.ifNotExists "IF NOT EXISTS "
  Writer.name d s.table
  Writer.text " ("
  Writer.commaList (s.columns.map (·.write d))
  Writer.text ")"

instance : Statement CreateTable Clause where
  kind := .createTable
  accept := accept
  write := write

end CreateTable

end SqlBuilder
