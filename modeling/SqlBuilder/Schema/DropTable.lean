import SqlBuilder.Draft

/-! # Dropping a table -/

namespace SqlBuilder

/-- `DROP TABLE`. -/
structure DropTable where
  /-- The table. -/
  table : String
  /-- A table that does not exist is no fault. -/
  ifExists : Bool := false
  /-- What depends on the table goes with it. -/
  cascade : Bool := false
deriving DecidableEq, Repr

namespace DropTable

/-- What can be said about dropping a table. -/
inductive Clause where
  | ifExists
  | cascade
deriving DecidableEq, Repr

/-- The statement with one more clause. Both clauses need the dialect's consent. -/
def accept (d : Dialect) (s : DropTable) : Clause → Except BuildError DropTable
  | .ifExists =>
    if d.hasIfExists then .ok { s with ifExists := true }
    else .error (.unsupportedFeature d.name .dropTableIfExists)
  | .cascade =>
    if d.hasDropCascade then .ok { s with cascade := true }
    else .error (.unsupportedFeature d.name .dropTableCascade)

/-- Writes the statement. -/
def write (d : Dialect) (s : DropTable) : Writer Unit := do
  Writer.text "DROP TABLE "
  Writer.optional s.ifExists "IF EXISTS "
  Writer.name d s.table
  Writer.optional s.cascade " CASCADE"

instance : Statement DropTable Clause where
  kind := .dropTable
  accept := accept
  write := write

end DropTable

end SqlBuilder
