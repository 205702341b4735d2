import SqlBuilder.CommandLine.Arguments
import SqlBuilder.Dialect.BuiltIn
import SqlBuilder.Workload.Planets

/-!
# Running a command

The command `sql` runs the planets workload on a connection that only records, and prints the record
behind the log. The command `planets` needs a database engine, of which this library has none.
-/

namespace SqlBuilder.CommandLine

/-- What a run of the program leaves behind. -/
structure Report where
  /-- The exit code. -/
  exit : Nat
  /-- The lines on standard output. -/
  output : List String := []
  /-- The lines on standard error. -/
  complaint : List String := []
deriving DecidableEq, Repr

/-- The name and the version of the program. -/
def version : String := "oxide-sqlkit 0.1.0"

/-- How the program is called. -/
def usage : String := "Usage: oxide-sqlkit [OPTIONS] <COMMAND>"

/-- The event is shown: debug events are shown only on demand. -/
def isShown (verbose : Bool) (e : Event) : Bool :=
  verbose || e.level != .debug

/-- A query on record as it is printed, with its values in a comment if it has any. -/
def queryLines (q : Query) : List String :=
  (q.sql ++ ";") :: if q.binds.isEmpty then [] else ["-- binds: " ++ q.bindsText]

/-- The planets workload in a dialect: the log, and behind it the record unless the
workload failed. -/
def printWorkload (verbose : Bool) (d : Dialect) : Report :=
  let ran := Planets.perform { dialect := d, connection := ({} : DryRun) }
  let log := (ran.2.events.filter (isShown verbose)).map Event.line
  match ran.1 with
  | .ok () => { exit := 0, output := log ++ ran.2.connection.queries.flatMap queryLines }
  | .error f => { exit := 1, output := log, complaint := ["Error: " ++ f.message nofun] }

/-- Answers a request. -/
def Request.perform : Request → Report
  | .run verbose (.sql dialect) =>
    match Dialect.ofName? dialect with
    | some d => printWorkload verbose d
    | none => { exit := 1, complaint := ["Error: unknown dialect: " ++ dialect] }
  | .run _ (.planets url) =>
    { exit := 1, complaint := ["Error: no database engine for " ++ url] }
  | .showHelp => { exit := 0, output := [usage] }
  | .showVersion => { exit := 0, output := [version] }
  | .refuse => { exit := 2, complaint := [usage] }

/-- Runs the program with the given arguments. -/
def run (arguments : List String) : Report :=
  (Request.of arguments).perform

end SqlBuilder.CommandLine
