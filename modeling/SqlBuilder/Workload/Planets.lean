import SqlBuilder.Rows.Insert
import SqlBuilder.Rows.Select
import SqlBuilder.Schema.AlterTable
import SqlBuilder.Schema.CreateIndex
import SqlBuilder.Schema.CreateTable
import SqlBuilder.Schema.DropTable
import SqlBuilder.Workload.Basic

/-!
# The planets workload

A sample of every statement: a schema of galaxies and planets is created, filled, asked, and
changed. The last changes go several to a statement, so they are left out where the dialect's table
says that one statement makes one change.
-/

namespace SqlBuilder.Planets

variable (d : Dialect)

/-! ## Ingredients -/

/-- Announces a phase. -/
def phase (message : String) : Task :=
  .announce message []

/-- Executes a drafted statement. -/
def run {α κ : Type} [Statement α κ] (start : α) (cs : List κ) : Task :=
  .execute (Statement.draft d start cs)

/-- A column without constraints. -/
def plainColumn (name : String) (dataType : DataType) : ColumnDefinition :=
  { name, dataType }

/-- The column that identifies a row. -/
def idColumn : ColumnDefinition :=
  { name := "id", dataType := .bigint, constraints := [.primaryKey] }

/-- The step that demands a column to equal a bound value. -/
def equals {α : Type} [ToValue α] (c : Combinator) (column : String) (value : α) : WhereStep :=
  .compare c { left := .ofName column, operator := .equal, right := .ofValue value }

/-- A row with a default in front of a bound name. -/
def namedRow (name : String) : Insert.Clause :=
  .values [.literal .default, .ofValue name]

/-! ## Phases -/

/-- Creates the tables and an index. -/
def createSchema : List Task :=
  [phase "Creating schema",
    run d { table := "planets" : DropTable } [.ifExists],
    run d { table := "galaxies" : DropTable } [.ifExists],
    run d { table := "galaxies" : CreateTable }
      [.column idColumn, .column (plainColumn "name" .text)],
    run d { table := "planets" : CreateTable }
      [.ifNotExists, .column idColumn,
        .column
          { name := "galaxyID"
            dataType := .bigint
            constraints := [.references { table := "galaxies", column := "id" }] }],
    run d { table := "planets" : AlterTable }
      [.addColumn
        { name := "name", dataType := .text, constraints := [.default (.string "Unamed Planet")] }],
    run d { name := "test_index" : CreateIndex } [.on "planets", .columns ["id"], .unique]]

/-- Counts planets of the fifth galaxy by an expression. -/
def countPlanets (counted : Expr) : Task :=
  run d ({} : Select)
    [.items [.call "count" [counted]], .table "planets",
      .condition (equals .and "galaxyID" (5 : Int32))]

/-- Fills the tables and asks for what was filled in. -/
def seedTables : List Task :=
  [phase "Seeding tables",
    run d { table := "galaxies" : Insert }
      [.columns ["id", "name"], namedRow "Milky Way", namedRow "Andromeda"],
    .count "Galaxies compared against NULL" (Statement.draft d ({} : Select)
      [.items [.ofName "*"], .table "galaxies",
        .condition (.compare .and
          { left := .ofName "name", operator := .notEqual, right := .literal .null }),
        .condition (.group .and
          [equals .and "name" "Milky Way", equals .or "name" "Andromeda"])]),
    .count "Galaxies named Milky Way" (Statement.draft d ({} : Select)
      [.items [.ofName "*"], .table "galaxies", .condition (equals .and "name" "Milky Way"),
        .groupBy (.ofName "id"), .orderBy (.ofName "name") .desc]),
    run d { table := "planets" : Insert } [.columns ["id", "name"], namedRow "Earth"],
    run d { table := "planets" : Insert }
      [.columns ["id", "name"], namedRow "Mercury", namedRow "Venus", namedRow "Mars",
        namedRow "Jpuiter", namedRow "Pluto"],
    countPlanets d (.ofName "name"),
    countPlanets d (.literal .all)]

/-- Changes several things in one statement. -/
def alterInBatches : List Task :=
  [run d { table := "planets" : AlterTable }
      [.addColumn (plainColumn "very_extra" .bigint), .addColumn (plainColumn "extra_extra" .text)],
    run d { table := "planets" : AlterTable }
      [.dropColumn "extra_extra", .modifyColumn "extra" .text,
        .addColumn (plainColumn "hi" .text)]]

/-- Says why several changes are not made. -/
def skipBatches : Task :=
  .announce "Skipping batched ALTER TABLE, dialect applies one change per statement"
    [("dialect", .quoted d.name)]

/-- Changes the schema. -/
def alterSchema : List Task :=
  [phase "Altering schema",
    run d { table := "planets" : AlterTable } [.addColumn (plainColumn "extra" .int)]]
  ++ if d.alterTable.allowsBatch then alterInBatches d else [skipBatches d]

/-- The whole workload. -/
def tasks : List Task :=
  createSchema d ++ seedTables d ++ alterSchema d

/-- Runs the workload on a database. -/
def perform {σ ρ ε : Type} [Connection σ ρ ε] (db : Database σ) :
    Except (Failure ε) Unit × Database σ :=
  Task.performAll db (tasks db.dialect)

end SqlBuilder.Planets
