/-!
# Arguments

The options `-d URL` and `-v` stand in front of the command, and `--dialect NAME` behind the command
`sql`. A value follows its option as the next argument, behind an equals sign, or, for a short
option, directly. Short options can be written together. No option may be repeated, a value that
follows as the next argument may not look like an option, and what is wrong first decides the
outcome: asking for help or the version ends the reading unless something was wrong before.
-/

namespace SqlBuilder.CommandLine

/-- What the program is asked to do. -/
inductive Command where
  /-- Runs the planets workload on the database of a URL. -/
  | planets (url : String)
  /-- Prints the planets workload in the named dialect. -/
  | sql (dialect : String)
deriving DecidableEq, Repr

/-- What the arguments ask for. -/
inductive Request where
  /-- A command, with or without debug events. -/
  | run (verbose : Bool) (command : Command)
  | showHelp
  | showVersion
  /-- The arguments make no sense. -/
  | refuse
deriving DecidableEq, Repr

/-- The options in front of the command, as far as they were read. -/
structure Options where
  /-- The database, if it was given. -/
  url : Option String := none
  /-- Debug events are shown. -/
  verbose : Bool := false
deriving DecidableEq, Repr

/-- The database that is used if none is given. -/
def defaultUrl : String := "sqlite::memory:"

/-- The dialects that can be named. -/
def dialectNames : List String := ["postgres", "postgresql", "mysql", "sqlite"]

/-- The dialect that is used if none is named. -/
def defaultDialect : String := "postgres"

/-- An argument by its form. -/
inductive Form where
  /-- Two hyphens alone: no options follow. -/
  | separator
  /-- A long option and the value behind its equals sign, if there is one. -/
  | long (name : String) (value : Option String)
  /-- Short options behind one hyphen. -/
  | short (letters : List Char)
  /-- Anything else; a hyphen alone is such a word. -/
  | word (s : String)
deriving DecidableEq, Repr

/-- The form of an argument. -/
def Form.of (argument : String) : Form :=
  match argument.toList with
  | ['-', '-'] => .separator
  | '-' :: '-' :: cs =>
    match cs.span (· != '=') with
    | (name, []) => .long (String.ofList name) none
    | (name, _ :: value) => .long (String.ofList name) (some (String.ofList value))
  | '-' :: c :: cs => .short (c :: cs)
  | cs => .word (String.ofList cs)

/-- A word, which is what can follow an option as its value. -/
def valueOf? (argument : String) : Option String :=
  match Form.of argument with
  | .word s => some s
  | _ => none

/-- The value that stands directly behind a short option, without the equals sign that may precede
it. -/
def attachedValue (cs : List Char) : String :=
  match cs with
  | '=' :: cs => String.ofList cs
  | cs => String.ofList cs

/-- What comes of the short options behind one hyphen. -/
inductive ShortOutcome where
  /-- All of them were read. -/
  | read (o : Options)
  /-- The last of them wants a value, which is the next argument. -/
  | wantsUrl (o : Options)
  | ends (r : Request)
deriving DecidableEq, Repr

/-- Gives the database its URL, which must not have been given before. -/
def Options.setUrl? (o : Options) (url : String) : Option Options :=
  if o.url.isSome then none else some { o with url := some url }

/-- Asks for debug events, which must not have been asked for before. -/
def Options.setVerbose? (o : Options) : Option Options :=
  if o.verbose then none else some { o with verbose := true }

/-- Reads short options. -/
def readShort (o : Options) : List Char → ShortOutcome
  | [] => .read o
  | 'v' :: cs =>
    match o.setVerbose? with
    | some o => readShort o cs
    | none => .ends .refuse
  | 'h' :: _ => .ends .showHelp
  | 'V' :: _ => .ends .showVersion
  | ['d'] => .wantsUrl o
  | 'd' :: cs =>
    match o.setUrl? (attachedValue cs) with
    | some o => .read o
    | none => .ends .refuse
  | _ => .ends .refuse

/-- Reads the arguments behind the command `sql`, of which nothing may follow a separator. -/
def readSql (verbose : Bool) (dialect : Option String) : List String → Request
  | [] => .run verbose (.sql (dialect.getD defaultDialect))
  | a :: as =>
    match Form.of a, as with
    | .separator, [] => .run verbose (.sql (dialect.getD defaultDialect))
    | .long "help" none, _ => .showHelp
    | .short ('h' :: _), _ => .showHelp
    | .long "dialect" (some name), as =>
      if dialect.isNone && dialectNames.contains name then readSql verbose (some name) as
      else .refuse
    | .long "dialect" none, name :: as =>
      if dialect.isNone && dialectNames.contains name then readSql verbose (some name) as
      else .refuse
    | _, _ => .refuse

/-- Reads the arguments behind a command that takes none. -/
def readBare (command : Request) : List String → Request
  | [] => command
  | a :: as =>
    match Form.of a, as with
    | .separator, [] => command
    | .long "help" none, _ => .showHelp
    | .short ('h' :: _), _ => .showHelp
    | _, _ => .refuse

/-- Reads a command and what stands behind it. -/
def readCommand (o : Options) (command : String) (as : List String) : Request :=
  match command with
  | "planets" => readBare (.run o.verbose (.planets (o.url.getD defaultUrl))) as
  | "sql" => readSql o.verbose none as
  | "help" =>
    match as with
    | [] => .showHelp
    | [topic] => if ["planets", "sql", "help"].contains topic then .showHelp else .refuse
    | _ => .refuse
  | _ => .refuse

/-- Reads arguments from the first one on. -/
def read (o : Options) : List String → Request
  | [] => .refuse
  | a :: as =>
    match Form.of a, as with
    | .separator, _ => .refuse
    | .word command, as => readCommand o command as
    | .long "help" none, _ => .showHelp
    | .long "version" none, _ => .showVersion
    | .long "verbose" none, as =>
      match o.setVerbose? with
      | some o => read o as
      | none => .refuse
    | .long "database" (some url), as =>
      match o.setUrl? url with
      | some o => read o as
      | none => .refuse
    | .long "database" none, url :: as =>
      match valueOf? url >>= o.setUrl? with
      | some o => read o as
      | none => .refuse
    | .short letters, as =>
      match readShort o letters, as with
      | .read o, as => read o as
      | .ends r, _ => r
      | .wantsUrl o, url :: as =>
        match valueOf? url >>= o.setUrl? with
        | some o => read o as
        | none => .refuse
      | .wantsUrl _, [] => .refuse
    | _, _ => .refuse

/-- What a command line asks for. -/
def Request.of (arguments : List String) : Request :=
  read {} arguments

end SqlBuilder.CommandLine
