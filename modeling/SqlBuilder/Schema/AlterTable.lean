import SqlBuilder.Draft
import SqlBuilder.Schema.Column

/-!
# Altering a table

Changes accumulate in order and are written in one of two ways: all of them in one statement, which
a dialect may refuse when there is more than one, or each in a statement of its own. A change reads
the same both ways.
-/

namespace SqlBuilder

/-- A change to a table. -/
inductive AlterOperation where
  /-- A new column. -/
  | addColumn (c : ColumnDefinition)
  /-- A column goes. -/
  | dropColumn (name : String)
  /-- A column gets another type. -/
  | modifyColumn (name : String) (dataType : DataType)
deriving DecidableEq, Repr

namespace AlterOperation

/-- The kind of the change. -/
def kind : AlterOperation → AlterKind
  | addColumn _ => .addColumn
  | dropColumn _ => .dropColumn
  | modifyColumn .. => .modifyColumn

/-- The dialect can make changes of this kind. -/
def isSupported (d : Dialect) : AlterOperation → Bool
  | addColumn _ => d.alterTable.addColumn
  | dropColumn _ => d.alterTable.dropColumn
  | modifyColumn .. => d.alterTable.modifyColumn.isSome

/-- The dialect accepts the change. The name of a column that goes is looked at only when the
statement is written. -/
def validate (d : Dialect) (op : AlterOperation) : Except BuildError Unit := do
  unless op.isSupported d do throw (.unsupportedAlter d.name op.kind)
  match op with
  | addColumn c => c.validate d
  | dropColumn _ => return
  | modifyColumn _ dataType => discard (d.resolveType dataType)

/-- Writes the change behind the table. -/
def write (d : Dialect) : AlterOperation → Writer Unit
  | addColumn c => do
    Writer.text "ADD COLUMN "
    c.write d
  | dropColumn name => do
    Writer.text "DROP COLUMN "
    Writer.name d name
  | modifyColumn name dataType => do
    let some form := d.alterTable.modifyColumn | throw (.unsupportedAlter d.name .modifyColumn)
    let typeName ← Writer.check (d.resolveType dataType)
    Writer.text form.clause
    Writer.text " "
    Writer.name d name
    if let some keyword := form.typeKeyword then
      Writer.text " "
      Writer.text keyword
    Writer.text " "
    Writer.text typeName

end AlterOperation

/-- `ALTER TABLE`. -/
structure AlterTable where
  /-- The table. -/
  table : String
  /-- The changes, in their order. -/
  operations : List AlterOperation := []
deriving DecidableEq, Repr

namespace AlterTable

/-- The statement with one more change. -/
def accept (d : Dialect) (s : AlterTable) (op : AlterOperation) : Except BuildError AlterTable := do
  op.validate d
  return { s with operations := s.operations ++ [op] }

/-- There is something to change. -/
def ensureOperations (s : AlterTable) : Except BuildError Unit :=
  if s.operations.isEmpty then .error (.noColumns .alterTable) else .ok ()

/-- Writes one statement with the given changes to the table. -/
def writeStatement (d : Dialect) (table : String) (ops : List AlterOperation) : Writer Unit := do
  Writer.text "ALTER TABLE "
  Writer.name d table
  Writer.text " "
  Writer.commaList (ops.map (·.write d))

/-- Writes all changes in one statement. -/
def write (d : Dialect) (s : AlterTable) : Writer Unit := do
  Writer.check s.ensureOperations
  if 1 < s.operations.length ∧ ¬ d.batchesAlter then
    throw (.batchAlterUnsupported d.name s.operations.length)
  writeStatement d s.table s.operations

/-- Each change in a statement of its own. -/
def toQueries (d : Dialect) (s : AlterTable) : Except BuildError (List Query) := do
  s.ensureOperations
  s.operations.mapM fun op ↦ (writeStatement d s.table [op]).query

instance : Statement AlterTable AlterOperation where
  kind := .alterTable
  accept := accept
  write := write

end AlterTable

end SqlBuilder
