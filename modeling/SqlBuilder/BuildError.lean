import SqlBuilder.Text.Escaped

/-!
# Why a statement cannot be written

Every cause is a constructor that carries what the message names, and `BuildError.message` is the
only place that holds the wording.
-/

namespace SqlBuilder

/-- The statements. -/
inductive StatementKind where
  | dropTable
  | createTable
  | alterTable
  | createIndex
  | insert
  | select
deriving DecidableEq, Repr

/-- The keywords that a statement begins with. -/
def StatementKind.keywords : StatementKind → String
  | .dropTable => "DROP TABLE"
  | .createTable => "CREATE TABLE"
  | .alterTable => "ALTER TABLE"
  | .createIndex => "CREATE INDEX"
  | .insert => "INSERT"
  | .select => "SELECT"

/-- The changes that `ALTER TABLE` can make. -/
inductive AlterKind where
  | addColumn
  | dropColumn
  | modifyColumn
deriving DecidableEq, Repr

/-- The keywords of a change. -/
def AlterKind.keywords : AlterKind → String
  | .addColumn => "ADD COLUMN"
  | .dropColumn => "DROP COLUMN"
  | .modifyColumn => "MODIFY COLUMN"

/-- What a dialect may do without. -/
inductive Feature where
  | dropTableIfExists
  | dropTableCascade
  | createTableIfNotExists
  | createIndexIfNotExists
deriving DecidableEq, Repr

/-- The feature as it would be written. -/
def Feature.keywords : Feature → String
  | .dropTableIfExists => "DROP TABLE IF EXISTS"
  | .dropTableCascade => "DROP TABLE ... CASCADE"
  | .createTableIfNotExists => "CREATE TABLE IF NOT EXISTS"
  | .createIndexIfNotExists => "CREATE INDEX IF NOT EXISTS"

/-- The parts that a statement can lack. -/
inductive MissingPart where
  | on
  | columnList
  | values
  | limit
deriving DecidableEq, Repr

/-- The part as the message names it. -/
def MissingPart.label : MissingPart → String
  | .on => "ON"
  | .columnList => "column list"
  | .values => "VALUES"
  | .limit => "LIMIT"

/-- Why a statement cannot be written. -/
inductive BuildError where
  /-- The statement was rendered before. -/
  | alreadyRendered (statement : StatementKind)
  /-- A row to insert, counted from zero, has another length than the column list. -/
  | arityMismatch (row expected found : Nat)
  /-- The dialect has no such type. -/
  | unsupportedType (dialect dataType : String)
  /-- A custom type holds a character that it may not hold, or nothing. -/
  | invalidTypeToken (token : String)
  /-- The dialect cannot make this change. -/
  | unsupportedAlter (dialect : String) (operation : AlterKind)
  /-- The dialect makes one change per statement. -/
  | batchAlterUnsupported (dialect : String) (operations : Nat)
  /-- The dialect lacks a feature that was asked for. -/
  | unsupportedFeature (dialect : String) (feature : Feature)
  /-- The wildcard stands neither in a select list nor directly among arguments. -/
  | misplacedWildcard
  /-- The default stands elsewhere than as a value to insert. -/
  | misplacedDefault
  /-- A column stands where a value to insert is expected. -/
  | columnInValues (name : String)
  /-- An infinity or a NaN has no literal. -/
  | nonFiniteNumber
  /-- The statement names no column. -/
  | noColumns (statement : StatementKind)
  /-- The statement lacks a part that it needs. -/
  | missingClause (statement : StatementKind) (part : MissingPart)
  /-- The name of a function is no dotted name. -/
  | invalidFunctionName (name : String)
  /-- A name is empty. -/
  | emptyIdentifier
deriving DecidableEq, Repr

/-- The wording of a cause. -/
def BuildError.message : BuildError → String
  | .alreadyRendered statement =>
    statement.keywords ++ " statement has already been rendered"
  | .arityMismatch row expected found =>
    "INSERT row " ++ toString row ++ " has " ++ toString found ++ " values but "
      ++ toString expected ++ " columns were given"
  | .unsupportedType dialect dataType =>
    "data type " ++ dataType ++ " is not supported by the " ++ dialect ++ " dialect"
  | .invalidTypeToken token =>
    "invalid type token: " ++ Text.escaped token
  | .unsupportedAlter dialect operation =>
    "the " ++ dialect ++ " dialect does not support " ++ operation.keywords ++ " in ALTER TABLE"
  | .batchAlterUnsupported dialect operations =>
    "the " ++ dialect ++ " dialect cannot batch " ++ toString operations
      ++ " ALTER TABLE operations; render them one per statement instead"
  | .unsupportedFeature dialect feature =>
    "the " ++ dialect ++ " dialect does not support " ++ feature.keywords
  | .misplacedWildcard =>
    "wildcard `*` is only valid in a select list or function arguments"
  | .misplacedDefault =>
    "DEFAULT is only valid as an INSERT value"
  | .columnInValues name =>
    "column " ++ Text.escaped name
      ++ " cannot be used as an INSERT value; bind the value instead"
  | .nonFiniteNumber =>
    "non-finite float cannot be rendered as a SQL literal"
  | .noColumns statement =>
    statement.keywords ++ " statement has no columns"
  | .missingClause statement part =>
    statement.keywords ++ " statement is missing its " ++ part.label ++ " clause"
  | .invalidFunctionName name =>
    "invalid function name: " ++ Text.escaped name
  | .emptyIdentifier =>
    "identifier must not be empty"

end SqlBuilder
