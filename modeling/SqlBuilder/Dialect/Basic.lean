import SqlBuilder.BuildError
import SqlBuilder.DataType
import SqlBuilder.Expr.Basic
import SqlBuilder.Text.Quoted

/-!
# Dialects

A dialect is a table of spellings and capabilities. Builders consult it and assume no capability.
The fields with a default are what most dialects agree on; a dialect states the others, and may
override any of the defaults on its own. In particular `batchesAlter`, which builders ask, need not
agree with `alterTable.allowsBatch`, which is only its default.

How names, placeholders, texts and literals are spelled is given by rules, which are read off the
table. A dialect may put a rule of its own in the place of each, and of such a rule nothing is
known: it need not quote, number or escape, and a literal may be refused for any cause.
-/

namespace SqlBuilder

/-- How placeholders are written. -/
inductive PlaceholderStyle where
  /-- Every placeholder is a question mark. -/
  | question
  /-- A dollar sign and the position, counted from one. -/
  | dollar
deriving DecidableEq, Repr

/-- How a column's type is changed. -/
structure ModifyColumnSyntax where
  /-- The keywords in front of the column. -/
  clause : String
  /-- The keywords between the column and the new type, if there are any. -/
  typeKeyword : Option String
deriving DecidableEq, Repr

/-- What `ALTER TABLE` can do. -/
structure AlterTableSyntax where
  /-- Columns can be added. -/
  addColumn : Bool
  /-- Columns can be dropped. -/
  dropColumn : Bool
  /-- How the type of a column is changed, if it can be. -/
  modifyColumn : Option ModifyColumnSyntax
  /-- One statement may hold several changes. -/
  allowsBatch : Bool
deriving DecidableEq, Repr

/-- A dialect of SQL. -/
structure Dialect where
  /-- The name that messages and log events use. -/
  name : String
  /-- The character around names. -/
  identifierQuote : Char := '"'
  /-- How placeholders are written. -/
  placeholderStyle : PlaceholderStyle := .question
  /-- The spelling of a column's default as a value to insert. -/
  defaultText : String := "DEFAULT"
  /-- The spelling of a truth value. -/
  booleanText : Bool → String := fun b ↦ if b then "TRUE" else "FALSE"
  /-- The spelling of a type, if the dialect has it. -/
  typeName : DataType → Option String
  /-- What `ALTER TABLE` can do. -/
  alterTable : AlterTableSyntax
  /-- Builders may put several changes into one `ALTER TABLE`. -/
  batchesAlter : Bool := alterTable.allowsBatch
  /-- `DROP TABLE` knows `IF EXISTS`. -/
  hasIfExists : Bool := true
  /-- `CREATE TABLE` knows `IF NOT EXISTS`. -/
  hasIfNotExists : Bool := true
  /-- `CREATE INDEX` knows `IF NOT EXISTS`. -/
  hasIndexIfNotExists : Bool := hasIfNotExists
  /-- `DROP TABLE` knows `CASCADE`. -/
  hasDropCascade : Bool := false
  /-- The dialect's own rule for names, if it has one. -/
  ownQuoteIdentifier : Option (String → String) := none
  /-- The dialect's own rule for placeholders, if it has one. -/
  ownPlaceholder : Option (Nat → String) := none
  /-- The dialect's own rule for texts, if it has one. -/
  ownStringLiteral : Option (String → String) := none
  /-- The dialect's own rule for literals, if it has one. -/
  ownRenderLiteral : Option (Literal → Except BuildError String) := none

/-- The literal can be written at all. -/
def Literal.ensureFinite : Literal → Except BuildError Unit
  | .float x => if x.isFinite then .ok () else .error .nonFiniteNumber
  | _ => .ok ()

namespace Dialect

variable (d : Dialect)

/-! ## Spellings -/

/-- A name as it is written, usually between the quotes of the dialect. -/
def quoteIdentifier (name : String) : String :=
  match d.ownQuoteIdentifier with
  | some rule => rule name
  | none => String.ofList (Text.quoted d.identifierQuote name.toList)

/-- The placeholder at a position, counted from one. -/
def placeholder (position : Nat) : String :=
  match d.ownPlaceholder with
  | some rule => rule position
  | none =>
    match d.placeholderStyle with
    | .question => "?"
    | .dollar => "$" ++ toString position

/-- A text as a string literal, usually with nothing escaped but the quote. -/
def stringLiteral (s : String) : String :=
  match d.ownStringLiteral with
  | some rule => rule s
  | none => String.ofList (Text.quoted '\'' s.toList)

/-- The usual spelling of a literal. An infinity or a NaN has none that SQL can read:
see `renderLiteral`. -/
def usualText : Literal → String
  | .default => d.defaultText
  | .null => "NULL"
  | .string s => d.stringLiteral s
  | .integer n => toString n.toInt
  | .float x => x.text
  | .boolean b => d.booleanText b
  | .all => "*"

/-- The spelling of a literal that can be written. -/
def renderLiteral (l : Literal) : Except BuildError String :=
  match d.ownRenderLiteral with
  | some rule => rule l
  | none => do
    l.ensureFinite
    return d.usualText l

end Dialect

/-! ## Types -/

/-- The spelling of a type that the dialect has. A custom token is checked before the dialect sees
it. -/
def Dialect.resolveType (d : Dialect) (t : DataType) : Except BuildError String := do
  if let .custom token := t then
    unless DataType.isValidToken token do throw (.invalidTypeToken token)
  match d.typeName t with
  | some spelling => return spelling
  | none => throw (.unsupportedType d.name t.display)

end SqlBuilder
