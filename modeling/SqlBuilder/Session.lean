import SqlBuilder.Execution.Database
import SqlBuilder.Rows.Insert
import SqlBuilder.Rows.Select
import SqlBuilder.Schema.AlterTable
import SqlBuilder.Schema.CreateIndex
import SqlBuilder.Schema.CreateTable
import SqlBuilder.Schema.DropTable

/-!
# Sessions

A session is a sequence of steps on one database, each with its answer. A step hands over a query,
looks at the record of the connection, or drafts a statement by a sequence of calls. A call that
executes or fetches the statement uses the draft up, so the calls end there; every other call leaves
the database as it is.
-/

namespace SqlBuilder

/-! ## Calls on a draft -/

/-- A call on a draft with clauses `κ`, where `ξ` are the calls that only this statement knows. -/
inductive Call (κ ξ : Type) where
  /-- Gives one more clause. -/
  | clause (c : κ)
  /-- Looks at the query that rendering would give. -/
  | preview
  /-- Renders the draft. -/
  | render
  /-- Asks whether the draft still takes clauses. -/
  | stage
  /-- Renders the draft and executes the query. -/
  | run
  /-- A call that only this statement knows. -/
  | special (x : ξ)

/-- What only an alteration can be asked. -/
inductive AlterCall where
  /-- Asks for the changes so far. -/
  | operations
  /-- Looks at the queries with one change each. -/
  | previewEach
  /-- Renders the draft as queries with one change each. -/
  | renderEach
  /-- Renders the draft so and executes the queries. -/
  | runEach

/-- What only a selection can be asked. -/
inductive SelectCall where
  /-- Renders the draft and fetches the items. -/
  | fetch
  /-- Renders the draft and fetches all rows. -/
  | all
  /-- Renders the draft and fetches the first row. -/
  | first

/-- The answer to a call, with rows `ρ` and refusals `ε`. -/
inductive Reply (ρ ε : Type) where
  /-- It was done. -/
  | done
  /-- It was not done. -/
  | failed (f : Failure ε)
  | query (q : Query)
  | queries (qs : List Query)
  | stage (s : Stage)
  /-- The draft after one more clause, and what it would give. -/
  | drafted (s : Stage) (q : Except BuildError Query)
  /-- The same for an alteration, with the queries with one change each and the kinds of the
  changes. -/
  | altered (s : Stage) (q : Except BuildError Query) (qs : Except BuildError (List Query))
      (kinds : List AlterKind)
  | operations (ops : List AlterOperation)
  | items (is : List (Except (Failure ε) ρ))
  | rows (rs : List ρ)
  | row (r : Option ρ)

namespace Reply

variable {ρ ε : Type}

/-- The answer to a call for which there is nothing to return. -/
def ofUnit : Except (Failure ε) Unit → Reply ρ ε
  | .ok () => done
  | .error f => failed f

/-- The answer to a call for a query. -/
def ofQuery : Except BuildError Query → Reply ρ ε
  | .ok q => query q
  | .error e => failed (.build e)

/-- The answer to a call for queries. -/
def ofQueries : Except BuildError (List Query) → Reply ρ ε
  | .ok qs => queries qs
  | .error e => failed (.build e)

/-- The answer to a call for all rows. -/
def ofRows : Except (Failure ε) (List ρ) → Reply ρ ε
  | .ok rs => rows rs
  | .error f => failed f

/-- The answer to a call for the first row. -/
def ofRow : Except (Failure ε) (Option ρ) → Reply ρ ε
  | .ok r => row r
  | .error f => failed f

end Reply

/-- What a call leads to. -/
inductive Outcome (α σ ρ ε : Type) where
  /-- The draft can be asked more. -/
  | goesOn (r : Reply ρ ε) (b : Draft α)
  /-- The draft is used up. -/
  | ends (r : Reply ρ ε) (db : Database σ)

namespace Draft

variable {α κ ξ σ ρ ε : Type} [Statement α κ] [Connection σ ρ ε]

/-- The answer to one more clause. -/
def reply (d : Dialect) (b : Draft α) : Reply ρ ε :=
  .drafted b.stage (b.toQuery d)

/-- Answers a call on a draft, where `reply` is the answer to a clause and `special` answers the
calls that only this statement knows. -/
def call (db : Database σ) (reply : Draft α → Reply ρ ε)
    (special : ξ → Draft α → Outcome α σ ρ ε) (b : Draft α) : Call κ ξ → Outcome α σ ρ ε
  | .clause c =>
    let b := b.add db.dialect c
    .goesOn (reply b) b
  | .preview => .goesOn (.ofQuery (b.toQuery db.dialect)) b
  | .render =>
    let rendered := b.renderQuery db.dialect
    .goesOn (.ofQuery rendered.1) rendered.2
  | .stage => .goesOn (.stage b.stage) b
  | .run =>
    let executed := db.submit (b.renderQuery db.dialect).1
    .ends (.ofUnit executed.1) executed.2
  | .special x => special x b

/-- Answers calls in their order, up to the one that uses the draft up. -/
def converse (db : Database σ) (reply : Draft α → Reply ρ ε)
    (special : ξ → Draft α → Outcome α σ ρ ε) (b : Draft α) :
    List (Call κ ξ) → List (Reply ρ ε) × Database σ
  | [] => ([], db)
  | c :: cs =>
    match b.call db reply special c with
    | .goesOn r b =>
      let rest := converse db reply special b cs
      (r :: rest.1, rest.2)
    | .ends r db => ([r], db)

end Draft

section

variable {σ ρ ε : Type} [Connection σ ρ ε]

/-- The answer to one more change. -/
def AlterTable.reply (d : Dialect) (b : Draft AlterTable) : Reply ρ ε :=
  .altered b.stage (b.toQuery d) (b.preview (AlterTable.toQueries d))
    (b.content.operations.map AlterOperation.kind)

/-- Answers what only an alteration can be asked. -/
def AlterTable.special (db : Database σ) (x : AlterCall) (b : Draft AlterTable) :
    Outcome AlterTable σ ρ ε :=
  match x with
  | .operations => .goesOn (.operations b.content.operations) b
  | .previewEach => .goesOn (.ofQueries (b.preview (AlterTable.toQueries db.dialect))) b
  | .renderEach =>
    let rendered := b.render (AlterTable.toQueries db.dialect)
    .goesOn (.ofQueries rendered.1) rendered.2
  | .runEach =>
    let executed :=
      db.submitEach b.content.table (b.render (AlterTable.toQueries db.dialect)).1
    .ends (.ofUnit executed.1) executed.2

/-- Answers what only a selection can be asked. -/
def Select.special (db : Database σ) (x : SelectCall) (b : Draft Select) :
    Outcome Select σ ρ ε :=
  let streamed := db.stream (b.renderQuery db.dialect).1
  match x with
  | .fetch => .ends (.items streamed.1) streamed.2
  | .all => .ends (.ofRows (allRows streamed.1)) streamed.2
  | .first => .ends (.ofRow (firstRow streamed.1)) streamed.2

end

/-! ## Steps of a session -/

/-- A step of a session. -/
inductive Step where
  /-- Hands over a query that yields no rows. -/
  | execute (q : Query)
  /-- Hands over a query that yields rows. -/
  | fetch (q : Query)
  /-- Looks at the record of the connection. -/
  | queries
  /-- Looks at the record of the connection and empties it. -/
  | take
  /-- Goes on with a second handle on the same connection. -/
  | clone
  /-- Shows the database. -/
  | describe
  | dropTable (table : String) (calls : List (Call DropTable.Clause Empty))
  | createTable (table : String) (calls : List (Call CreateTable.Clause Empty))
  | alterTable (table : String) (calls : List (Call AlterOperation AlterCall))
  | createIndex (name : String) (calls : List (Call CreateIndex.Clause Empty))
  | insert (table : String) (calls : List (Call Insert.Clause Empty))
  | select (calls : List (Call Select.Clause SelectCall))

/-- The answer to a step. -/
inductive Answer (ρ ε : Type) where
  /-- The answer to a step other than a draft. -/
  | reply (r : Reply ρ ε)
  /-- The answers to the calls on a draft. -/
  | replies (rs : List (Reply ρ ε))
  /-- How the database is shown. -/
  | description (s : String)
  /-- The dialect of the second handle. -/
  | sharedWith (dialect : String)

namespace Database

variable {α κ σ ρ ε : Type} [Connection σ ρ ε]

/-- Drafts a statement that knows no calls of its own. -/
def draft [Statement α κ] (db : Database σ) (start : α) (calls : List (Call κ Empty)) :
    Answer ρ ε × Database σ :=
  let answered := ({ content := start } : Draft α).converse db (Draft.reply db.dialect) nofun calls
  (.replies answered.1, answered.2)

/-- Performs a step of a session. -/
def perform [Recording σ] (db : Database σ) : Step → Answer ρ ε × Database σ
  | .execute q =>
    let executed := db.execute q
    (.reply (.ofUnit executed.1), executed.2)
  | .fetch q =>
    let fetched := db.fetch q
    (.reply (.items fetched.1), fetched.2)
  | .queries => (.reply (.queries (Recording.queries db.connection)), db)
  | .take =>
    (.reply (.queries (Recording.queries db.connection)),
      { db with connection := Recording.cleared db.connection })
  | .clone => (.sharedWith db.dialect.name, db)
  | .describe => (.description db.describe, db)
  | .dropTable table calls => db.draft { table : DropTable } calls
  | .createTable table calls => db.draft { table : CreateTable } calls
  | .alterTable table calls =>
    let start : Draft AlterTable := { content := { table } }
    let answered := start.converse db (AlterTable.reply db.dialect) (AlterTable.special db) calls
    (.replies answered.1, answered.2)
  | .createIndex name calls => db.draft { name : CreateIndex } calls
  | .insert table calls => db.draft { table : Insert } calls
  | .select calls =>
    let start : Draft Select := { content := {} }
    let answered := start.converse db (Draft.reply db.dialect) (Select.special db) calls
    (.replies answered.1, answered.2)

/-- Performs steps in their order. With each answer come the events that its step logged. -/
def performAll [Recording σ] (db : Database σ) :
    List Step → List (Answer ρ ε × List Event) × Database σ
  | [] => ([], db)
  | s :: ss =>
    let performed := db.perform s
    let rest := performAll performed.2 ss
    ((performed.1, performed.2.events.drop db.events.length) :: rest.1, rest.2)

end Database

end SqlBuilder
