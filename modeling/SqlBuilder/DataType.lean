/-!
# Column types

A type is named without regard to a dialect. Each dialect decides how it spells the type and whether
it has it at all. A custom type is a token in the words of the dialect at hand; it is written
without quotes, so only harmless characters are admitted in it.
-/

namespace SqlBuilder

/-- The type of a column. -/
inductive DataType where
  | smallint
  | int
  | bigint
  | real
  | double
  | text
  /-- Text of at most the given length. -/
  | varchar (length : UInt32)
  | blob
  | boolean
  | date
  | timestamp
  | uuid
  | json
  /-- A type named by the user. -/
  | custom (token : String)
deriving DecidableEq, Repr

namespace DataType

/-- The name of the type outside any dialect. -/
def display : DataType → String
  | smallint => "SMALLINT"
  | int => "INT"
  | bigint => "BIGINT"
  | real => "REAL"
  | double => "DOUBLE"
  | text => "TEXT"
  | varchar length => "VARCHAR(" ++ toString length.toNat ++ ")"
  | blob => "BLOB"
  | boolean => "BOOLEAN"
  | date => "DATE"
  | timestamp => "TIMESTAMP"
  | uuid => "UUID"
  | json => "JSON"
  | custom token => token

/-- A character that may stand in a custom type: ASCII letters, digits, and `_`, blank, parentheses
and comma. -/
def isTokenChar (c : Char) : Bool :=
  c.isAlphanum || c == '_' || c == ' ' || c == '(' || c == ')' || c == ','

/-- A custom type is made of token characters and does not consist of blanks alone. -/
def isValidToken (token : String) : Bool :=
  token.toList.any (· != ' ') && token.toList.all isTokenChar

end DataType

end SqlBuilder
