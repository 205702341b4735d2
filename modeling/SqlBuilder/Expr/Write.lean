import SqlBuilder.Text.DottedName
import SqlBuilder.Writer

/-!
# Writing expressions

Whether an expression may be written depends on the place it stands in: the wildcard belongs into a
select list or directly among arguments, a column's default is a value to insert, and a value to
insert is no column. The arguments of a call form a place of their own, whatever the call stands in.
-/

namespace SqlBuilder

/-- Where an expression stands. -/
inductive Place where
  /-- An item of a select list. -/
  | selectItem
  /-- An argument of a call. -/
  | argument
  /-- A side of a comparison, or an item of a grouping or an ordering. -/
  | operand
  /-- A value to insert. -/
  | insertValue
  /-- The default of a column definition. -/
  | columnDefault
deriving DecidableEq, Repr

/-- The literal belongs into the place. -/
def Literal.ensureAllowed (l : Literal) (place : Place) : Except BuildError Unit :=
  match l, place with
  | .all, .selectItem => .ok ()
  | .all, .argument => .ok ()
  | .all, _ => .error .misplacedWildcard
  | .default, .insertValue => .ok ()
  | .default, _ => .error .misplacedDefault
  | _, _ => .ok ()

/-- Writes a literal that belongs into the place, as the dialect spells it. -/
def Literal.write (d : Dialect) (place : Place) (l : Literal) : Writer Unit := do
  Writer.check (l.ensureAllowed place)
  let token ← Writer.check (d.renderLiteral l)
  Writer.text token

/-- Writes a column, behind its table and a point if it is qualified. -/
def ColumnRef.write (d : Dialect) (c : ColumnRef) : Writer Unit := do
  if let some table := c.table then
    Writer.name d table
    Writer.text "."
  Writer.name d c.name

/-- The name can be written as that of a function. -/
def ensureFunctionName (name : String) : Except BuildError Unit :=
  if name = "" then .error .emptyIdentifier
  else if Text.isDottedName name then .ok ()
  else .error (.invalidFunctionName name)

namespace Expr

mutual

/-- Writes an expression in a place. -/
def write (d : Dialect) (place : Place) : Expr → Writer Unit
  | .column c => if place = .insertValue then throw (.columnInValues c.name) else c.write d
  | .literal l => l.write d place
  | .bind v => Writer.value d v
  | .call function arguments => do
    Writer.check (ensureFunctionName function)
    Writer.text function
    Writer.text "("
    Writer.commaList (writeAll d .argument arguments)
    Writer.text ")"

/-- Writes each of the expressions in a place. -/
def writeAll (d : Dialect) (place : Place) : List Expr → List (Writer Unit)
  | [] => []
  | e :: es => e.write d place :: writeAll d place es

end

end Expr

end SqlBuilder
