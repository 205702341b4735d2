import SqlBuilder.Writer

/-!
# Log events

An event has a level, a message and named fields. A field keeps its bare text; whether a log line
shows it between quotes is a property of the field.
-/

namespace SqlBuilder

/-- How much an event matters. -/
inductive Level where
  | debug
  | info
  | warn
deriving DecidableEq, Repr

/-- The name of a level, five characters wide. -/
def Level.label : Level → String
  | .debug => "DEBUG"
  | .info => " INFO"
  | .warn => " WARN"

/-- The content of a field. -/
inductive FieldValue where
  /-- Shown between quotes. -/
  | quoted (s : String)
  /-- Shown as it stands. -/
  | plain (s : String)
deriving DecidableEq, Repr

/-- The text of a field, without quotes. -/
def FieldValue.text : FieldValue → String
  | quoted s => s
  | plain s => s

/-- The text of a field on a log line. -/
def FieldValue.shown : FieldValue → String
  | quoted s => Text.escaped s
  | plain s => s

/-- Something that the program reports while it runs. -/
structure Event where
  /-- How much it matters. -/
  level : Level
  /-- What happened. -/
  message : String
  /-- The particulars, in the order in which they are shown. -/
  fields : List (String × FieldValue) := []
deriving DecidableEq, Repr

namespace Event

/-- The event as a line of the log. -/
def line (e : Event) : String :=
  e.level.label ++ " " ++ e.message
    ++ String.join (e.fields.map fun f ↦ " " ++ f.1 ++ "=" ++ f.2.shown)

/-- The particulars of a query in a dialect. -/
def queryFields (d : Dialect) (q : Query) : List (String × FieldValue) :=
  [("dialect", .quoted d.name), ("sql", .plain q.sql), ("binds", .plain q.bindsText)]

/-- A query is handed over to be executed. -/
def executing (d : Dialect) (q : Query) : Event where
  level := .debug
  message := "Executing SQL"
  fields := queryFields d q

/-- A query is handed over for its rows. -/
def fetching (d : Dialect) (q : Query) : Event where
  level := .debug
  message := "Fetching SQL"
  fields := queryFields d q

/-- Some of the statements of an alteration were applied when one was refused. -/
def partiallyApplied (table : String) (applied total : Nat) (refusal : String) : Event where
  level := .warn
  message := "ALTER TABLE failed part-way, earlier statements remain applied"
  fields :=
    [("table", .plain table), ("applied", .plain (toString applied)),
      ("total", .plain (toString total)), ("error", .plain refusal)]

end Event

end SqlBuilder
