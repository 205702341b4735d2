import SqlBuilder.Dialect.BuiltIn
import SqlBuilder.Proofs.Drafting.Conversation
import SqlBuilder.Proofs.Drafting.Parallel

/-!
# One draft in two dialects

A clause of a selection or an insertion needs no dialect's consent, so the same calls make the same
draft in every dialect, and what the draft gives is written in the same steps. Dialects that do not
part over a literal therefore give the same fault, or two spellings with the same values. This is
said of two conversations with the same calls on two databases, which need not have anything else in
common.
-/

namespace SqlBuilder

open Writer

/-! ## The same but for the text -/

/-- Two results of writing one statement, in two dialects: the same fault, or the same values. -/
inductive SameButText : Except BuildError Query → Except BuildError Query → Prop
  | fault (e : BuildError) : SameButText (.error e) (.error e)
  | query {q q' : Query} (h : q.binds = q'.binds) : SameButText (.ok q) (.ok q')

theorem SameButText.binds {x y : Except BuildError Query} (h : SameButText x y) :
    (∃ e, x = .error e ∧ y = .error e) ∨
      ∃ q q', x = .ok q ∧ y = .ok q' ∧ q.binds = q'.binds := by
  cases h with
  | fault e => exact Or.inl ⟨e, rfl, rfl⟩
  | query h => exact Or.inr ⟨_, _, rfl, rfl, h⟩

theorem Writer.Parallel.sameButText {w w' : Writer Unit} (h : Parallel w w') :
    SameButText w.query w'.query := by
  rcases h.query with ⟨e, hw, hw'⟩ | ⟨q, q', hw, hw', hbinds⟩
  · rw [hw, hw']
    exact .fault e
  · rw [hw, hw']
    exact .query hbinds

/-- Two answers to one call, on databases of two dialects. -/
inductive Reply.SameButText {ρ ε ρ' ε' : Type} : Reply ρ ε → Reply ρ' ε' → Prop
  | stage (s : Stage) : SameButText (.stage s) (.stage s)
  | drafted (s : Stage) {x y : Except BuildError Query} (h : SqlBuilder.SameButText x y) :
    SameButText (.drafted s x) (.drafted s y)
  | query {x y : Except BuildError Query} (h : SqlBuilder.SameButText x y) :
    SameButText (.ofQuery x) (.ofQuery y)

/-- Two outcomes of one call, on databases of two dialects: the conversations go on with the same
draft, or both end. -/
inductive Outcome.SameButText {α σ ρ ε σ' ρ' ε' : Type} :
    Outcome α σ ρ ε → Outcome α σ' ρ' ε' → Prop
  | goesOn (b : Draft α) {r : Reply ρ ε} {r' : Reply ρ' ε'} (h : r.SameButText r') :
    SameButText (.goesOn r b) (.goesOn r' b)
  | ends (r : Reply ρ ε) (db : Database σ) (r' : Reply ρ' ε') (db' : Database σ') :
    SameButText (.ends r db) (.ends r' db')

/-! ## Statements that ask for spellings only -/

/-- Statements whose clauses are the same in every dialect, and that are written in the same steps
in dialects that refuse the same literals. -/
class Translatable (α : Type) {κ : outParam Type} [Statement α κ] : Prop where
  accept_eq (d d' : Dialect) (a : α) (k : κ) : Statement.accept d a k = Statement.accept d' a k
  parallel {d d' : Dialect} (hd : d.SameVerdicts d') (a : α) :
    Parallel (Statement.write d a) (Statement.write d' a)

/-- Statements that answer a clause by the draft alone and know no calls but those that use the
draft up. -/
class PlainlyAnswered (α : Type) {κ ξ : outParam Type} [Statement α κ] [SpecialCall ξ]
    [Conversant α κ ξ] : Prop where
  reply_eq {ρ ε : Type} (d : Dialect) (b : Draft α) :
    (Conversant.reply d b : Reply ρ ε) = .drafted b.stage (b.toQuery d)
  special_ends {σ ρ ε : Type} [Connection σ ρ ε] (db : Database σ) (x : ξ) (b : Draft α) :
    ∃ r db', Conversant.special db x b = .ends r db'

instance : Translatable Insert where
  accept_eq _ _ _ _ := rfl
  parallel := Insert.parallel_write

instance : PlainlyAnswered Insert where
  reply_eq _ _ := rfl
  special_ends _ := nofun

instance : Translatable Select where
  accept_eq _ _ _ _ := rfl
  parallel := Select.parallel_write

instance : PlainlyAnswered Select where
  reply_eq _ _ := rfl
  special_ends _ x _ := by
    cases x with
    | fetch => exact ⟨_, _, rfl⟩
    | all => exact ⟨_, _, rfl⟩
    | first => exact ⟨_, _, rfl⟩

namespace Draft

variable {α κ ξ σ ρ ε σ' ρ' ε' : Type} [Statement α κ] [Translatable α]

/-- A clause makes the same draft in every dialect. -/
theorem add_eq (d d' : Dialect) (b : Draft α) (k : κ) : b.add d k = b.add d' k := by
  rw [add, add, Translatable.accept_eq d d']

/-- A draft gives the same in both dialects, but for the text. -/
theorem sameButText_toQuery {d d' : Dialect} (hd : d.SameVerdicts d') (b : Draft α) :
    SameButText (b.toQuery d) (b.toQuery d') := by
  rw [toQuery, toQuery, preview, preview]
  cases b.stage with
  | rendered => exact .fault _
  | building =>
    cases b.refusal with
    | some e => exact .fault e
    | none => exact (Translatable.parallel hd b.content).sameButText

variable [SpecialCall ξ] [Conversant α κ ξ] [PlainlyAnswered α] [Connection σ ρ ε]
  [Connection σ' ρ' ε'] {db : Database σ} {db' : Database σ'}

/-- One call leads to the same in both conversations, but for the text. -/
theorem sameButText_answer (hd : db.dialect.SameVerdicts db'.dialect) (b : Draft α)
    (c : Call κ ξ) : (b.answer db c).SameButText (b.answer db' c) := by
  have hquery := sameButText_toQuery hd b
  cases c with
  | clause k =>
    have hadded := sameButText_toQuery hd (b.add db.dialect k)
    rw [answer, answer, call, call, add_eq db'.dialect db.dialect,
      PlainlyAnswered.reply_eq, PlainlyAnswered.reply_eq]
    exact .goesOn _ (.drafted _ hadded)
  | preview => exact .goesOn b (.query hquery)
  | render => exact .goesOn { b with stage := .rendered } (.query hquery)
  | stage => exact .goesOn b (.stage b.stage)
  | run => exact .ends _ _ _ _
  | special x =>
    obtain ⟨r, db₁, h⟩ := PlainlyAnswered.special_ends db x b
    obtain ⟨r', db₁', h'⟩ := PlainlyAnswered.special_ends db' x b
    rw [answer, answer, call, call, h, h']
    exact .ends r db₁ r' db₁'

/-! ## Two conversations -/

/-- The same calls on a draft in two databases. -/
structure Translates (db : Database σ) (db' : Database σ') (start : Draft α) : Prop where
  /-- At every point the draft is the same, or used up in both. -/
  after_eq : ∀ cs, start.after db cs = start.after db' cs
  /-- As long as the draft is not used up, each answer is the same but for the text. -/
  answers : ∀ cs, (∀ c ∈ cs, c.role ≠ .finish) →
    List.Forall₂ Reply.SameButText (start.answers db cs).1 (start.answers db' cs).1
  /-- At every point a preview fails with the same fault or gives the same values. -/
  preview : ∀ cs b, start.after db cs = some b →
    (∃ e, b.toQuery db.dialect = .error e ∧ b.toQuery db'.dialect = .error e) ∨
      ∃ q q', b.toQuery db.dialect = .ok q ∧ b.toQuery db'.dialect = .ok q' ∧ q.binds = q'.binds
  /-- At every point a render does. -/
  render : ∀ cs b, start.after db cs = some b →
    (∃ e, (b.renderQuery db.dialect).1 = .error e ∧ (b.renderQuery db'.dialect).1 = .error e) ∨
      ∃ q q', (b.renderQuery db.dialect).1 = .ok q ∧ (b.renderQuery db'.dialect).1 = .ok q' ∧
        q.binds = q'.binds

theorem after_eq_after (hd : db.dialect.SameVerdicts db'.dialect) (b : Draft α)
    (cs : List (Call κ ξ)) : b.after db cs = b.after db' cs := by
  induction cs generalizing b with
  | nil => rfl
  | cons c cs ih =>
    have hc := sameButText_answer hd b c
    generalize h : b.answer db c = outcome at hc
    generalize h' : b.answer db' c = outcome' at hc
    cases hc with
    | goesOn b₁ _ => rw [after_cons_of_goesOn h, after_cons_of_goesOn h', ih]
    | ends r db₁ r' db₁' => rw [after_cons_of_ends h, after_cons_of_ends h']

theorem sameButText_answers (hd : db.dialect.SameVerdicts db'.dialect) (b : Draft α)
    {cs : List (Call κ ξ)} (hcs : ∀ c ∈ cs, c.role ≠ .finish) :
    List.Forall₂ Reply.SameButText (b.answers db cs).1 (b.answers db' cs).1 := by
  induction cs generalizing b with
  | nil => exact .nil
  | cons c cs ih =>
    obtain ⟨hrole, hcs⟩ := List.forall_mem_cons.mp hcs
    have hleads := leads_answer db b c
    have hc := sameButText_answer hd b c
    generalize h : b.answer db c = outcome at hc hleads
    generalize h' : b.answer db' c = outcome' at hc
    cases hc with
    | goesOn b₁ hreply =>
      rw [answers_cons_of_goesOn h, answers_cons_of_goesOn h']
      exact .cons hreply (ih b₁ hcs)
    | ends r db₁ r' db₁' =>
      generalize c.role = role at hrole hleads
      cases hleads
      exact absurd rfl hrole

theorem translates (hd : db.dialect.SameVerdicts db'.dialect) (start : Draft α) :
    Translates db db' start where
  after_eq := after_eq_after hd start
  answers _ := sameButText_answers hd start
  preview _ b _ := (sameButText_toQuery hd b).binds
  render _ b _ := (sameButText_toQuery hd b).binds

/-- **Dialects change only the text.** The same calls on a selection or an insertion, on databases
of any two dialects without a rule of their own for literals, are answered alike and give the same
values. -/
theorem translates_statements (hd : db.dialect.ownRenderLiteral = none)
    (hd' : db'.dialect.ownRenderLiteral = none) :
    Translates db db' ({ content := {} } : Draft Select) ∧
      ∀ table, Translates db db' ({ content := { table } } : Draft Insert) := by
  have hverdicts : db.dialect.SameVerdicts db'.dialect :=
    (Dialect.refusesNonFinite_of_usual hd).sameVerdicts (Dialect.refusesNonFinite_of_usual hd')
  exact ⟨translates hverdicts _, fun _ ↦ translates hverdicts _⟩

/-- A selection with a value in its list and one in its condition, and a look at it in between. -/
def boundCalls : List (Call Select.Clause SelectCall) :=
  [.clause (.items [.bind (.int 1), .literal .all]), .clause (.table "t"), .preview,
    .clause (.condition (.compare .and ⟨.column ⟨none, "a"⟩, .equal, .bind (.text "?")⟩))]

/-- The draft that `boundCalls` leave. -/
def boundDraft : Draft Select where
  content :=
    { items := [.bind (.int 1), .literal .all]
      tables := ["t"]
      condition :=
        { children := [.comparison ⟨.column ⟨none, "a"⟩, .equal, .bind (.text "?")⟩] } }

theorem translates_statements_bound :
    Dialect.mysql.ownRenderLiteral = none ∧ Dialect.postgresql.ownRenderLiteral = none ∧
      ({ content := {} } : Draft Select).after
        { dialect := .mysql, connection := ({} : DryRun) } boundCalls = some boundDraft ∧
      ((∃ e, boundDraft.toQuery .mysql = .error e ∧ boundDraft.toQuery .postgresql = .error e) ∨
        ∃ q q', boundDraft.toQuery .mysql = .ok q ∧ boundDraft.toQuery .postgresql = .ok q' ∧
          q.binds = q'.binds) := by
  have hafter : ({ content := {} } : Draft Select).after
      { dialect := .mysql, connection := ({} : DryRun) } boundCalls = some boundDraft := by
    rfl
  have htranslates : Translates { dialect := .mysql, connection := ({} : DryRun) }
      { dialect := .postgresql, connection := ({} : DryRun) } ({ content := {} } : Draft Select) :=
    (translates_statements rfl rfl).1
  exact ⟨rfl, rfl, hafter, htranslates.preview boundCalls boundDraft hafter⟩

/-- The two texts differ in their quotes and in their placeholders. -/
example :
    (boundDraft.toQuery .mysql, boundDraft.toQuery .postgresql) =
      (.ok ⟨"SELECT ?, * FROM \x60t\x60 WHERE \x60a\x60 = ?", [.int 1, .text "?"]⟩,
        .ok ⟨"SELECT $1, * FROM \"t\" WHERE \"a\" = $2", [.int 1, .text "?"]⟩) := by
  decide +kernel

end Draft

end SqlBuilder
