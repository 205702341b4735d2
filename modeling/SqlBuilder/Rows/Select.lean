import SqlBuilder.Condition.Group
import SqlBuilder.Draft

/-!
# Selecting rows

The clauses may be given in any order; they are written in the order that SQL demands. Within a
clause the order of the calls is kept, except that of limit and offset the last one counts.
-/

namespace SqlBuilder

/-- The direction of an ordering. -/
inductive Direction where
  | asc
  | desc
deriving DecidableEq, Repr

/-- An ordering ascends unless something else is asked for. -/
instance : Inhabited Direction := ⟨.asc⟩

/-- The keyword of a direction. -/
def Direction.keyword : Direction → String
  | .asc => "ASC"
  | .desc => "DESC"

/-- `SELECT`. -/
structure Select where
  /-- Equal rows are given once. -/
  distinct : Bool := false
  /-- The select list. -/
  items : List Expr := []
  /-- The tables. -/
  tables : List String := []
  /-- The condition on the rows. -/
  condition : WhereGroup := {}
  /-- The grouping. -/
  grouping : List Expr := []
  /-- The ordering. -/
  ordering : List (Expr × Direction) := []
  /-- How many rows are given at most. -/
  limit : Option UInt64 := none
  /-- How many rows are left out at the beginning. -/
  offset : Option UInt64 := none

namespace Select

/-- What can be said about selecting rows. -/
inductive Clause where
  | distinct
  | items (es : List Expr)
  | table (name : String)
  | condition (s : WhereStep)
  | groupBy (e : Expr)
  | orderBy (e : Expr) (direction : Direction)
  | limit (n : UInt64)
  | offset (n : UInt64)

/-- The statement with one more clause. No clause needs the dialect's consent. -/
def extend (s : Select) : Clause → Select
  | .distinct => { s with distinct := true }
  | .items es => { s with items := s.items ++ es }
  | .table name => { s with tables := s.tables ++ [name] }
  | .condition step => { s with condition := s.condition.step step }
  | .groupBy e => { s with grouping := s.grouping ++ [e] }
  | .orderBy e direction => { s with ordering := s.ordering ++ [(e, direction)] }
  | .limit n => { s with limit := some n }
  | .offset n => { s with offset := some n }

/-- Writes an item of the ordering. -/
def writeOrder (d : Dialect) (item : Expr × Direction) : Writer Unit := do
  item.1.write d .operand
  Writer.text " "
  Writer.text item.2.keyword

/-- Writes the condition behind `WHERE`, if anything was collected for it. -/
def writeCondition (d : Dialect) (g : WhereGroup) : Writer Unit :=
  if g.isEmpty then pure ()
  else do
    Writer.text " WHERE "
    g.write d

/-- Writes a keyword and a number, if there is one. -/
def writeNumber (keyword : String) : Option UInt64 → Writer Unit
  | some n => do
    Writer.text keyword
    Writer.text (toString n.toNat)
  | none => pure ()

/-- Writes the statement. An offset without a limit is not SQL, and both that and an empty select
list are reported before anything is written. -/
def write (d : Dialect) (s : Select) : Writer Unit := do
  if s.items.isEmpty then throw (.noColumns .select)
  if s.offset.isSome && s.limit.isNone then throw (.missingClause .select .limit)
  Writer.text "SELECT "
  Writer.optional s.distinct "DISTINCT "
  Writer.commaList (Expr.writeAll d .selectItem s.items)
  Writer.clause " FROM " (s.tables.map (Writer.name d))
  writeCondition d s.condition
  Writer.clause " GROUP BY " (Expr.writeAll d .operand s.grouping)
  Writer.clause " ORDER BY " (s.ordering.map (writeOrder d))
  writeNumber " LIMIT " s.limit
  writeNumber " OFFSET " s.offset

instance : Statement Select Clause where
  kind := .select
  accept _ s c := .ok (s.extend c)
  write := write

end Select

end SqlBuilder
