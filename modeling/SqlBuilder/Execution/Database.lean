import SqlBuilder.Execution.Connection
import SqlBuilder.Execution.Event

/-!
# Databases

A database pairs a dialect with a connection and keeps the log of what happened. Every query that is
handed over is logged first. A statement that could not be built is not handed over, logs nothing,
and its fault is what is reported.

Several statements for one alteration are handed over one after another until one is refused. What
was applied before stays applied, so such a refusal says how many statements that were.
-/

namespace SqlBuilder

/-- Why something that was asked of a database did not happen. -/
inductive Failure (ε : Type) where
  /-- There is no statement to hand over. -/
  | build (e : BuildError)
  /-- The connection refused. -/
  | execution (refusal : ε)
  /-- The connection refused after some statements of an alteration were applied. -/
  | partiallyApplied (applied total : Nat) (refusal : ε)

/-- The wording of a failure, given that of a refusal. -/
def Failure.message {ε : Type} (refusalText : ε → String) : Failure ε → String
  | .build e => e.message
  | .execution refusal => refusalText refusal
  | .partiallyApplied applied total refusal =>
    "ALTER TABLE failed after " ++ toString applied ++ " of " ++ toString total
      ++ " statements were applied: " ++ refusalText refusal

/-- A dialect, a connection, and the log. -/
structure Database (σ : Type) where
  /-- The dialect that statements are written in. -/
  dialect : Dialect
  /-- The connection that statements are handed to. -/
  connection : σ
  /-- What happened so far, oldest first. -/
  events : List Event := []

namespace Database

variable {σ ρ ε : Type}

/-- The database with one more event in the log. -/
def log (db : Database σ) (e : Event) : Database σ :=
  { db with events := db.events ++ [e] }

section

variable [Connection σ ρ ε]

/-! ## Single statements -/

/-- Hands over a query that yields no rows. -/
def send (db : Database σ) (q : Query) : Except ε Unit × Database σ :=
  let answer := Connection.execute db.connection q
  (answer.1, { db.log (.executing db.dialect q) with connection := answer.2 })

/-- Hands over a query that yields no rows; a refusal is a failure. -/
def execute (db : Database σ) (q : Query) : Except (Failure ε) Unit × Database σ :=
  let answer := db.send q
  (answer.1.mapError .execution, answer.2)

/-- Hands over a query that yields rows; a refusal is a failure. -/
def fetch (db : Database σ) (q : Query) : List (Except (Failure ε) ρ) × Database σ :=
  let answer := Connection.fetch db.connection q
  (answer.1.map (·.mapError .execution),
    { db.log (.fetching db.dialect q) with connection := answer.2 })

/-- Executes a statement if it could be built. -/
def submit (db : Database σ) : Except BuildError Query → Except (Failure ε) Unit × Database σ
  | .ok q => db.execute q
  | .error e => (.error (.build e), db)

/-- Fetches the rows of a statement if it could be built. -/
def stream (db : Database σ) :
    Except BuildError Query → List (Except (Failure ε) ρ) × Database σ
  | .ok q => db.fetch q
  | .error e => ([.error (.build e)], db)

/-! ## Statements one after another -/

/-- Hands over the statements of an alteration until one is refused, when `applied` of `total` were
applied before. -/
def sendEach (table : String) (total : Nat) (db : Database σ) (applied : Nat) :
    List Query → Except (Failure ε) Unit × Database σ
  | [] => (.ok (), db)
  | q :: qs =>
    match db.send q with
    | (.ok (), db) => sendEach table total db (applied + 1) qs
    | (.error refusal, db) =>
      if applied = 0 then (.error (.execution refusal), db)
      else
        (.error (.partiallyApplied applied total refusal),
          db.log (.partiallyApplied table applied total (Connection.refusalText σ refusal)))

/-- Executes the statements of an alteration if they could be built. -/
def submitEach (table : String) (db : Database σ) :
    Except BuildError (List Query) → Except (Failure ε) Unit × Database σ
  | .ok qs => sendEach table qs.length db 0 qs
  | .error e => (.error (.build e), db)

end

/-! ## Showing a database -/

/-- The database with its connection. -/
def describe [Recording σ] (db : Database σ) : String :=
  Text.braced "Database"
    ["dialect: " ++ Text.escaped db.dialect.name,
      "connection: " ++ Recording.describe db.connection]

end Database

/-! ## Reading rows -/

/-- All rows, or the first failure. -/
def allRows {ρ ε : Type} (items : List (Except (Failure ε) ρ)) : Except (Failure ε) (List ρ) :=
  items.mapM id

/-- The first row, if there is one; a failure in front of it is reported. -/
def firstRow {ρ ε : Type} : List (Except (Failure ε) ρ) → Except (Failure ε) (Option ρ)
  | [] => .ok none
  | .ok row :: _ => .ok (some row)
  | .error e :: _ => .error e

end SqlBuilder
