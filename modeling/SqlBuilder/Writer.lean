import SqlBuilder.Dialect.Basic

/-!
# Writing statements

A statement is written from left to right. What was written so far is a text with the values of its
placeholders, so the state of a writer is a query, and a placeholder is numbered behind the values
that travel already. What cannot be written is a fault, at which the writer stops; then the fault is
given in place of the query.

User text enters a statement only as a name, inside a literal, or beside the text as a value. It
never enters as it stands, except for function names and types, which are checked before.
-/

namespace SqlBuilder

/-- A statement with the values of its placeholders, in the order of the placeholders. -/
structure Query where
  /-- The text. -/
  sql : String
  /-- The values. -/
  binds : List Value
deriving DecidableEq, Repr

/-- The values of the query as log events show them. -/
def Query.bindsText (q : Query) : String :=
  Text.bracketed (q.binds.map Value.describe)

/-- Writes behind what was written already, and stops at the first fault. -/
abbrev Writer (α : Type) := ExceptT BuildError (StateM Query) α

namespace Writer

/-! ## What is written -/

/-- How a writer ends that begins behind `q`, and what is written then. -/
def behind (w : Writer Unit) (q : Query) : Except BuildError Unit × Query :=
  w.run.run q

/-- What a writer writes that begins behind nothing. -/
def query (w : Writer Unit) : Except BuildError Query :=
  let written := w.behind { sql := "", binds := [] }
  written.1.map fun _ ↦ written.2

/-! ## Pieces -/

/-- Goes on with what a check gives, unless it fails. -/
def check {α : Type} (x : Except BuildError α) : Writer α :=
  ExceptT.mk (pure x)

/-- Writes a text as it stands. -/
def text (s : String) : Writer Unit :=
  modify fun q ↦ { q with sql := q.sql ++ s }

/-- Writes a name, which may not be empty. -/
def name (d : Dialect) (s : String) : Writer Unit := do
  if s = "" then throw .emptyIdentifier
  text (d.quoteIdentifier s)

/-- Writes a placeholder for a value, which travels beside the text. -/
def value (d : Dialect) (v : Value) : Writer Unit :=
  modify fun q ↦
    { sql := q.sql ++ d.placeholder (q.binds.length + 1)
      binds := q.binds ++ [v] }

/-! ## Writers together -/

/-- One writer after another, with the separator between them. -/
def joined (separator : String) : List (Writer Unit) → Writer Unit
  | [] => pure ()
  | [w] => w
  | w :: ws => do
    w
    text separator
    joined separator ws

/-- One writer after another, as a list with commas. -/
def commaList (ws : List (Writer Unit)) : Writer Unit :=
  joined ", " ws

/-- Writes a text, if it is asked for. -/
def optional (asked : Bool) (s : String) : Writer Unit :=
  if asked then text s else pure ()

/-- Keywords and a list with commas behind them; nothing at all if the list is empty. -/
def clause (keywords : String) (ws : List (Writer Unit)) : Writer Unit :=
  if ws.isEmpty then pure ()
  else do
    text keywords
    commaList ws

/-- Writes names as a list with commas; none of them may be empty. -/
def names (d : Dialect) (ss : List String) : Writer Unit :=
  commaList (ss.map (name d))

end Writer

end SqlBuilder
