import SqlBuilder.Draft

/-! # Creating an index -/

namespace SqlBuilder

/-- `CREATE INDEX`. -/
structure CreateIndex where
  /-- The index. -/
  name : String
  /-- The table, once it is known. -/
  table : Option String := none
  /-- The columns, in their order. -/
  columns : List String := []
  /-- No two rows may agree on the columns. -/
  unique : Bool := false
  /-- An index that exists already is no fault. -/
  ifNotExists : Bool := false
deriving DecidableEq, Repr

namespace CreateIndex

/-- What can be said about creating an index. -/
inductive Clause where
  /-- The table; the last one counts. -/
  | on (table : String)
  | columns (names : List String)
  | unique
  | ifNotExists
deriving DecidableEq, Repr

/-- The statement with one more clause. -/
def accept (d : Dialect) (s : CreateIndex) : Clause → Except BuildError CreateIndex
  | .on table => .ok { s with table := some table }
  | .columns names => .ok { s with columns := s.columns ++ names }
  | .unique => .ok { s with unique := true }
  | .ifNotExists =>
    if d.hasIndexIfNotExists then .ok { s with ifNotExists := true }
    else .error (.unsupportedFeature d.name .createIndexIfNotExists)

/-- Writes the statement. A missing table is reported before missing columns. -/
def write (d : Dialect) (s : CreateIndex) : Writer Unit := do
  let some table := s.table | throw (.missingClause .createIndex .on)
  if s.columns.isEmpty then throw (.missingClause .createIndex .columnList)
  Writer.text "CREATE "
  Writer.optional s.unique "UNIQUE "
  Writer.text "INDEX "
  Writer.optional s.ifNotExists "IF NOT EXISTS "
  Writer.name d s.name
  Writer.text " ON "
  Writer.name d table
  Writer.text " ("
  Writer.names d s.columns
  Writer.text ")"

instance : Statement CreateIndex Clause where
  kind := .createIndex
  accept := accept
  write := write

end CreateIndex

end SqlBuilder
