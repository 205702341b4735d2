import SqlBuilder.Writer

/-!
# Drafts

A statement is drafted clause by clause and rendered once. A clause that the dialect refuses changes
nothing; the draft remembers the first refusal and reports it instead of a statement. Rendering ends
the draft whether or not it succeeds, and from then on the only answer is that it was rendered.
Looking at what a draft would render now is a preview, which leaves no trace.

Clauses are data, so a draft is a fold over the clauses that were given.
-/

namespace SqlBuilder

/-- Statements that are drafted clause by clause. -/
class Statement (α : Type) (κ : outParam Type) where
  /-- Which statement it is. -/
  kind : StatementKind
  /-- The statement with one more clause, unless the dialect refuses the clause. -/
  accept : Dialect → α → κ → Except BuildError α
  /-- Writes the statement. -/
  write : Dialect → α → Writer Unit

/-- The statement as a query. -/
def Statement.toQuery {α κ : Type} [Statement α κ] (d : Dialect) (a : α) :
    Except BuildError Query :=
  (Statement.write d a).query

/-- Whether a draft still takes clauses. -/
inductive Stage where
  | building
  | rendered
deriving DecidableEq, Repr

/-- A statement that is being drafted. -/
structure Draft (α : Type) where
  /-- What the accepted clauses made of the statement. -/
  content : α
  /-- Whether more clauses are taken. -/
  stage : Stage := .building
  /-- The first refusal. -/
  refusal : Option BuildError := none

namespace Draft

variable {α κ β : Type}

/-- Remembers a refusal unless there was one before. -/
def refuse (b : Draft α) (e : BuildError) : Draft α :=
  { b with refusal := b.refusal.or (some e) }

/-- Gives the draft one more clause. -/
def add [Statement α κ] (d : Dialect) (b : Draft α) (c : κ) : Draft α :=
  match b.stage with
  | .rendered => b.refuse (.alreadyRendered (Statement.kind α))
  | .building =>
    match Statement.accept d b.content c with
    | .ok content => { b with content }
    | .error e => b.refuse e

/-- Gives the draft clauses in their order. -/
def addAll [Statement α κ] (d : Dialect) (b : Draft α) (cs : List κ) : Draft α :=
  cs.foldl (add d) b

/-- What the draft would give if it were rendered now, where `build` turns a statement into what is
asked for. -/
def preview [Statement α κ] (build : α → Except BuildError β) (b : Draft α) :
    Except BuildError β :=
  match b.stage, b.refusal with
  | .rendered, _ => .error (.alreadyRendered (Statement.kind α))
  | .building, some e => .error e
  | .building, none => build b.content

/-- Renders the draft, which ends it. -/
def render [Statement α κ] (build : α → Except BuildError β) (b : Draft α) :
    Except BuildError β × Draft α :=
  (b.preview build, { b with stage := .rendered })

/-- The draft as a query, if it were rendered now. -/
def toQuery [Statement α κ] (d : Dialect) (b : Draft α) : Except BuildError Query :=
  b.preview (Statement.toQuery d)

/-- Renders the draft as a query. -/
def renderQuery [Statement α κ] (d : Dialect) (b : Draft α) : Except BuildError Query × Draft α :=
  b.render (Statement.toQuery d)

end Draft

/-- The query of a statement with the given clauses. -/
def Statement.draft {α κ : Type} [Statement α κ] (d : Dialect) (start : α) (cs : List κ) :
    Except BuildError Query :=
  (({ content := start } : Draft α).addAll d cs).toQuery d

end SqlBuilder
