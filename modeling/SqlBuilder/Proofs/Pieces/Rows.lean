import SqlBuilder.Proofs.Pieces.Condition
import SqlBuilder.Proofs.Pieces.Statement
import SqlBuilder.Rows.Insert
import SqlBuilder.Rows.Select

/-!
# Statements about rows as fragments

What is missing is reported before any expression is looked at; then the first fault in the order of
the text is.
-/

namespace SqlBuilder

open Writer

variable {d : Dialect}

/-! ## Inserting -/

namespace Insert

/-- A row as it is written. -/
def rowFragment (d : Dialect) (row : List Expr) : Except BuildError Fragment := do
  let values ← Expr.fragments d .insertValue row
  return .text "(" :: (Fragment.commaList values ++ [.text ")"])

theorem realizes_writeRow (row : List Expr) :
    Realizes d (writeRow d row) (rowFragment d row) := by
  have hvalues := (Expr.realizes_commaList (d := d) row .insertValue).seq (Realizes.text ")")
  refine ((Realizes.text "(").seq hvalues).congr ?_
  simp only [rowFragment, bind_assoc, pure_bind, ok_bind, List.singleton_append]

/-- The statement as it is written. -/
def fragment (d : Dialect) (s : Insert) : Except BuildError Fragment := do
  if s.columns.isEmpty then throw (.noColumns .insert)
  if s.rows.isEmpty then throw (.missingClause .insert .values)
  if let some (row, index) := s.raggedRow? then
    throw (.arityMismatch index s.columns.length row.length)
  let table ← Fragment.ofName s.table
  let columns ← Fragment.ofNames s.columns
  let rows ← s.rows.mapM (rowFragment d)
  return .text "INSERT INTO " :: (table ++ .text " (" :: (columns ++ .text ") VALUES "
    :: Fragment.commaList rows))

theorem realizes_write (s : Insert) : Realizes d (s.write d) (s.fragment d) := by
  refine Realizes.guarded fun _ ↦ Realizes.guarded fun _ ↦ ?_
  cases s.raggedRow? with
  | some row => exact Realizes.fault _
  | none =>
    have hrows := Realizes.commaList fun row (_ : row ∈ s.rows) ↦ realizes_writeRow (d := d) row
    have hcolumns := (Realizes.names s.columns).seq ((Realizes.text ") VALUES ").seq hrows)
    have htable := (Realizes.name s.table).seq ((Realizes.text " (").seq hcolumns)
    refine ((Realizes.text "INSERT INTO ").seq htable).congr ?_
    simp only [bind_assoc, pure_bind, ok_bind, List.singleton_append]

instance : Fragmented Insert where
  fragment := fragment
  realizes _ := realizes_write

end Insert

/-! ## Selecting -/

namespace Select

/-- An item of the ordering as it is written. -/
def orderFragment (d : Dialect) (item : Expr × Direction) : Except BuildError Fragment := do
  let f ← item.1.fragment d .operand
  return f ++ [.text " ", .text item.2.keyword]

theorem realizes_writeOrder (item : Expr × Direction) :
    Realizes d (writeOrder d item) (orderFragment d item) :=
  (item.1.realizes_write .operand).seq ((Realizes.text " ").seq (Realizes.text item.2.keyword))

/-- The condition behind `WHERE`, if anything was collected for it. -/
def conditionFragment (d : Dialect) (g : WhereGroup) : Except BuildError Fragment :=
  if g.isEmpty then .ok [] else return .text " WHERE " :: (← g.fragment d)

theorem realizes_writeCondition (g : WhereGroup) :
    Realizes d (writeCondition d g) (conditionFragment d g) := by
  rw [writeCondition, conditionFragment]
  cases g.isEmpty with
  | true => exact Realizes.nil
  | false => exact (Realizes.text " WHERE ").seq g.realizes_write

/-- A keyword and a number, if there is one. -/
def numberFragment (keyword : String) : Option UInt64 → Fragment
  | some n => [.text keyword, .text (toString n.toNat)]
  | none => []

theorem realizes_writeNumber (keyword : String) (n : Option UInt64) :
    Realizes d (writeNumber keyword n) (.ok (numberFragment keyword n)) := by
  cases n with
  | none => exact Realizes.nil
  | some n => exact (Realizes.text keyword).seq (Realizes.text (toString n.toNat))

/-- The statement as it is written. An offset without a limit is not SQL, and both that and an empty
select list are reported before anything else. -/
def fragment (d : Dialect) (s : Select) : Except BuildError Fragment := do
  if s.items.isEmpty then throw (.noColumns .select)
  if s.offset.isSome && s.limit.isNone then throw (.missingClause .select .limit)
  let items ← Expr.fragments d .selectItem s.items
  let tables ← s.tables.mapM Fragment.ofName
  let condition ← conditionFragment d s.condition
  let grouping ← Expr.fragments d .operand s.grouping
  let ordering ← s.ordering.mapM (orderFragment d)
  return .text "SELECT " :: (Fragment.optional s.distinct "DISTINCT "
    ++ Fragment.commaList items
    ++ Fragment.clause " FROM " tables
    ++ condition
    ++ Fragment.clause " GROUP BY " grouping
    ++ Fragment.clause " ORDER BY " ordering
    ++ numberFragment " LIMIT " s.limit
    ++ numberFragment " OFFSET " s.offset)

theorem realizes_write (s : Select) : Realizes d (s.write d) (s.fragment d) := by
  refine Realizes.guarded fun _ ↦ Realizes.guarded fun _ ↦ ?_
  have hnumbers := (realizes_writeNumber (d := d) " LIMIT " s.limit).seq
    (realizes_writeNumber " OFFSET " s.offset)
  have hordering := (Realizes.clause " ORDER BY " fun item (_ : item ∈ s.ordering) ↦
    realizes_writeOrder item).seq hnumbers
  have hgrouping := (Expr.realizes_clause " GROUP BY " s.grouping .operand).seq hordering
  have hcondition := (realizes_writeCondition s.condition).seq hgrouping
  have htables := (Realizes.clause " FROM " fun table (_ : table ∈ s.tables) ↦
    Realizes.name table).seq hcondition
  have hitems := (Expr.realizes_commaList s.items .selectItem).seq htables
  have hhead := (Realizes.optional s.distinct "DISTINCT ").seq hitems
  refine ((Realizes.text "SELECT ").seq hhead).congr ?_
  -- The computations stop at the first fault of the same parts in the same order.
  simp only [bind_assoc, pure_bind, ok_bind, List.singleton_append, List.append_assoc]

instance : Fragmented Select where
  fragment := fragment
  realizes _ := realizes_write

end Select

end SqlBuilder
