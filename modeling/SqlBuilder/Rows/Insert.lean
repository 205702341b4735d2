import SqlBuilder.Draft
import SqlBuilder.Expr.Write

/-!
# Inserting rows

Every row has as many values as there are columns. This is looked at before anything is written, so
a ragged row is reported whatever else is wrong with the names and the values.
-/

namespace SqlBuilder

/-- `INSERT INTO`. -/
structure Insert where
  /-- The table. -/
  table : String
  /-- The columns that get values, in their order. -/
  columns : List String := []
  /-- The rows, in their order. -/
  rows : List (List Expr) := []

namespace Insert

/-- What can be said about inserting rows. -/
inductive Clause where
  | columns (names : List String)
  | values (row : List Expr)

/-- The statement with one more clause. No clause needs the dialect's consent. -/
def extend (s : Insert) : Clause → Insert
  | .columns names => { s with columns := s.columns ++ names }
  | .values row => { s with rows := s.rows ++ [row] }

/-- The first row whose length differs from the column list, with its position from zero. -/
def raggedRow? (s : Insert) : Option (List Expr × Nat) :=
  s.rows.zipIdx.find? fun row ↦ row.1.length != s.columns.length

/-- Writes a row. -/
def writeRow (d : Dialect) (row : List Expr) : Writer Unit := do
  Writer.text "("
  Writer.commaList (Expr.writeAll d .insertValue row)
  Writer.text ")"

/-- Writes the statement. -/
def write (d : Dialect) (s : Insert) : Writer Unit := do
  if s.columns.isEmpty then throw (.noColumns .insert)
  if s.rows.isEmpty then throw (.missingClause .insert .values)
  if let some (row, index) := s.raggedRow? then
    throw (.arityMismatch index s.columns.length row.length)
  Writer.text "INSERT INTO "
  Writer.name d s.table
  Writer.text " ("
  Writer.names d s.columns
  Writer.text ") VALUES "
  Writer.commaList (s.rows.map (writeRow d))

instance : Statement Insert Clause where
  kind := .insert
  accept _ s c := .ok (s.extend c)
  write := write

end Insert

end SqlBuilder
