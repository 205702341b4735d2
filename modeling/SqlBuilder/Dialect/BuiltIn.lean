import SqlBuilder.Dialect.Basic

/-!
# The built-in dialects

Three dialects are known by name. All three have the wildcard, the null literal and `ADD COLUMN` in
common; they differ in quotes, placeholders, types and in how much one `ALTER TABLE` may change.
-/

namespace SqlBuilder

namespace Dialect

/-- Numbered placeholders, every type, and a change of type spelled as setting it. -/
def postgresql : Dialect where
  name := "postgresql"
  placeholderStyle := .dollar
  typeName
    | .smallint => some "SMALLINT"
    | .int => some "INTEGER"
    | .bigint => some "BIGINT"
    | .real => some "REAL"
    | .double => some "DOUBLE PRECISION"
    | .text => some "TEXT"
    | .varchar length => some ("VARCHAR(" ++ toString length.toNat ++ ")")
    | .blob => some "BYTEA"
    | .boolean => some "BOOLEAN"
    | .date => some "DATE"
    | .timestamp => some "TIMESTAMP"
    | .uuid => some "UUID"
    | .json => some "JSONB"
    | .custom token => some token
  alterTable :=
    { addColumn := true
      dropColumn := true
      modifyColumn := some { clause := "ALTER COLUMN", typeKeyword := some "SET DATA TYPE" }
      allowsBatch := true }
  hasDropCascade := true

/-- Names between grave accents, string literals in which a backslash is doubled like the quote
because it escapes, and no type for unique identifiers. A cascading drop is accepted and has no
effect there. -/
def mysql : Dialect where
  name := "mysql"
  identifierQuote := '\x60'
  ownStringLiteral := some fun s ↦
    String.ofList (Text.quoted '\'' (Text.doubled '\\' s.toList))
  typeName
    | .smallint => some "SMALLINT"
    | .int => some "INT"
    | .bigint => some "BIGINT"
    | .real => some "FLOAT"
    | .double => some "DOUBLE"
    | .text => some "TEXT"
    | .varchar length => some ("VARCHAR(" ++ toString length.toNat ++ ")")
    | .blob => some "BLOB"
    | .boolean => some "BOOLEAN"
    | .date => some "DATE"
    | .timestamp => some "TIMESTAMP"
    | .uuid => none
    | .json => some "JSON"
    | .custom token => some token
  alterTable :=
    { addColumn := true
      dropColumn := true
      modifyColumn := some { clause := "MODIFY COLUMN", typeKeyword := none }
      allowsBatch := true }
  hasIndexIfNotExists := false
  hasDropCascade := true

/-- Types are affinities, a default is inserted as the absent value, and one `ALTER TABLE` makes one
change and never to a type. -/
def sqlite : Dialect where
  name := "sqlite"
  defaultText := "NULL"
  typeName
    | .smallint | .int | .bigint | .boolean => some "INTEGER"
    | .real | .double => some "REAL"
    | .text | .varchar _ | .date | .timestamp => some "TEXT"
    | .blob => some "BLOB"
    | .uuid | .json => none
    | .custom token => some token
  alterTable :=
    { addColumn := true
      dropColumn := true
      modifyColumn := none
      allowsBatch := false }

/-- The built-in dialect of a name. The case of ASCII letters does not matter, blanks do. -/
def ofName? (name : String) : Option Dialect :=
  match name.map Char.toLower with
  | "postgres" => some postgresql
  | "postgresql" => some postgresql
  | "mysql" => some mysql
  | "sqlite" => some sqlite
  | _ => none

end Dialect

end SqlBuilder
