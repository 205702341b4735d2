import SqlBuilder.Writer

/-!
# Connections

A connection receives queries and answers them; that it changes by receiving one is expressed by
returning its next state. Nothing is assumed of it. In particular it may refuse a query, or yield
some rows and refuse then.
-/

namespace SqlBuilder

/-- What a database is reached through: the states `σ` of a connection with rows `ρ` and refusals
`ε`. -/
class Connection (σ : Type) (ρ ε : outParam Type) where
  /-- Answers a query that yields no rows. -/
  execute : σ → Query → Except ε Unit × σ
  /-- Answers a query that yields rows, in the order in which they arrive. -/
  fetch : σ → Query → List (Except ε ρ) × σ
  /-- The text of a refusal. -/
  refusalText : ε → String

/-- Connections that keep a record of the queries they received. -/
class Recording (σ : Type) where
  /-- The queries on record, oldest first. -/
  queries : σ → List Query
  /-- The connection with an empty record. -/
  cleared : σ → σ
  /-- How the connection is shown. -/
  describe : σ → String

/-! ## A connection that only records -/

/-- Records what it receives and reaches no database. -/
structure DryRun where
  /-- The queries on record, oldest first. -/
  queries : List Query := []
deriving DecidableEq, Repr

/-- It refuses nothing and yields no rows. -/
instance : Connection DryRun Empty Empty where
  execute c q := (.ok (), { queries := c.queries ++ [q] })
  fetch c q := ([], { queries := c.queries ++ [q] })
  refusalText := nofun

/-- A name and the contents of its fields between braces, as connections are shown. -/
def Text.braced (name : String) (fields : List String) : String :=
  name ++ " \x7b " ++ ", ".intercalate fields ++ " \x7d"

/-- The query with both its parts. -/
def Query.describe (q : Query) : String :=
  Text.braced "Query" ["sql: " ++ Text.escaped q.sql, "binds: " ++ q.bindsText]

instance : Recording DryRun where
  queries := DryRun.queries
  cleared _ := {}
  describe c :=
    let data := Text.bracketed (c.queries.map Query.describe)
    Text.braced "DryRun"
      ["queries: " ++ Text.braced "Mutex" ["data: " ++ data, "poisoned: false", ".."]]

/-! ## A connection that refuses on demand -/

/-- Records what it receives, yields the same rows to every query, and refuses one query. -/
structure Recorder where
  /-- The rows that a query yields. -/
  rows : List String := []
  /-- The position from one of the query that is refused; zero refuses none. -/
  failAt : Nat := 0
  /-- How many rows a refused query yields before the refusal. -/
  failAfterRows : Nat := 0
  /-- How many queries were received, those no longer on record included. -/
  received : Nat := 0
  /-- The queries on record, oldest first. -/
  queries : List Query := []
deriving DecidableEq, Repr

namespace Recorder

/-- The recorder with one more query received. A refused query goes on record too. -/
def receive (c : Recorder) (q : Query) : Recorder :=
  { c with received := c.received + 1, queries := c.queries ++ [q] }

/-- The next query is the one that is refused. -/
def refusesNext (c : Recorder) : Bool :=
  c.received + 1 == c.failAt

/-- The refusal of the next query. -/
def refusal (c : Recorder) : String :=
  "statement " ++ toString (c.received + 1) ++ " rejected"

instance : Connection Recorder String String where
  execute c q := (if c.refusesNext then .error c.refusal else .ok (), c.receive q)
  fetch c q :=
    let answers :=
      if c.refusesNext then (c.rows.take c.failAfterRows).map .ok ++ [.error c.refusal]
      else c.rows.map .ok
    (answers, c.receive q)
  refusalText := id

instance : Recording Recorder where
  queries := Recorder.queries
  cleared c := { c with queries := [] }
  describe _ := "Recorder"

end Recorder

end SqlBuilder
