import SqlBuilder.Execution.Database

/-!
# Workloads

A workload is a list of tasks that are done in order on one database until one fails. Its statements
are drafted without the database, so the list is known before the first task is done; a run only
decides how far down the list it gets.
-/

namespace SqlBuilder

/-- A task of a workload. -/
inductive Task where
  /-- Announces what comes next. -/
  | announce (message : String) (fields : List (String × FieldValue))
  /-- Executes a statement. -/
  | execute (statement : Except BuildError Query)
  /-- Fetches all rows of a statement and announces how many there are. -/
  | count (message : String) (statement : Except BuildError Query)

namespace Task

variable {σ ρ ε : Type} [Connection σ ρ ε]

/-- Does a task. -/
def perform (db : Database σ) : Task → Except (Failure ε) Unit × Database σ
  | announce message fields => (.ok (), db.log { level := .info, message, fields })
  | execute statement => db.submit statement
  | count message statement =>
    let streamed := db.stream statement
    match allRows streamed.1 with
    | .ok rows =>
      (.ok (), streamed.2.log
        { level := .info, message, fields := [("rows", .plain (toString rows.length))] })
    | .error f => (.error f, streamed.2)

/-- Does tasks in their order until one fails. -/
def performAll (db : Database σ) : List Task → Except (Failure ε) Unit × Database σ
  | [] => (.ok (), db)
  | t :: ts =>
    match t.perform db with
    | (.ok (), db) => performAll db ts
    | (.error f, db) => (.error f, db)

end Task

end SqlBuilder
