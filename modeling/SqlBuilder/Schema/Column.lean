import SqlBuilder.Expr.Write

/-!
# Column definitions

The same definition stands in `CREATE TABLE` and in `ALTER TABLE ... ADD COLUMN`. Whether a dialect
accepts it is found out by a trial, which writes it behind nothing.
-/

namespace SqlBuilder

/-- What happens to a row when the row it refers to goes or changes. -/
inductive ReferentialAction where
  | noAction
  | restrict
  | cascade
  | setNull
  | setDefault
deriving DecidableEq, Repr

/-- The keywords of an action. -/
def ReferentialAction.keywords : ReferentialAction → String
  | .noAction => "NO ACTION"
  | .restrict => "RESTRICT"
  | .cascade => "CASCADE"
  | .setNull => "SET NULL"
  | .setDefault => "SET DEFAULT"

/-- A reference to a column of another table. -/
structure ForeignKey where
  /-- The table referred to. -/
  table : String
  /-- The column referred to. -/
  column : String
  /-- What happens when the row referred to is deleted. -/
  onDelete : Option ReferentialAction := none
  /-- What happens when the column referred to changes. -/
  onUpdate : Option ReferentialAction := none
deriving DecidableEq, Repr

/-- A constraint on a column. -/
inductive ColumnConstraint where
  | primaryKey
  | notNull
  | unique
  | default (l : Literal)
  | references (key : ForeignKey)
deriving DecidableEq, Repr

/-- A column as it is defined. -/
structure ColumnDefinition where
  /-- The name of the column. -/
  name : String
  /-- The type of the column. -/
  dataType : DataType
  /-- The constraints, in the order in which they are written. -/
  constraints : List ColumnConstraint := []
deriving DecidableEq, Repr

/-- The definition with more constraints behind those it has. -/
def ColumnDefinition.constrained (c : ColumnDefinition) (ks : List ColumnConstraint) :
    ColumnDefinition :=
  { c with constraints := c.constraints ++ ks }

/-- Writes keywords and an action, if there is one. -/
def ReferentialAction.write (keywords : String) : Option ReferentialAction → Writer Unit
  | some action => do
    Writer.text keywords
    Writer.text action.keywords
  | none => pure ()

/-- Writes a reference. -/
def ForeignKey.write (d : Dialect) (key : ForeignKey) : Writer Unit := do
  Writer.name d key.table
  Writer.text " ("
  Writer.name d key.column
  Writer.text ")"
  ReferentialAction.write " ON DELETE " key.onDelete
  ReferentialAction.write " ON UPDATE " key.onUpdate

/-- Writes a constraint, with the blank in front of it. -/
def ColumnConstraint.write (d : Dialect) : ColumnConstraint → Writer Unit
  | .primaryKey => Writer.text " PRIMARY KEY"
  | .notNull => Writer.text " NOT NULL"
  | .unique => Writer.text " UNIQUE"
  | .default l => do
    Writer.text " DEFAULT "
    l.write d .columnDefault
  | .references key => do
    Writer.text " REFERENCES "
    key.write d

/-- Writes a definition. The type is resolved before anything else is looked at. -/
def ColumnDefinition.write (d : Dialect) (c : ColumnDefinition) : Writer Unit := do
  let typeName ← Writer.check (d.resolveType c.dataType)
  Writer.name d c.name
  Writer.text " "
  Writer.text typeName
  c.constraints.forM (·.write d)

/-- The dialect accepts the definition. -/
def ColumnDefinition.validate (d : Dialect) (c : ColumnDefinition) : Except BuildError Unit :=
  discard (c.write d).query

end SqlBuilder
