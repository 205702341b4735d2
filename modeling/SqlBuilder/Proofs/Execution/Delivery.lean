import SqlBuilder.Dialect.BuiltIn
import SqlBuilder.Proofs.Execution.Alteration

/-!
# What is delivered

A call that uses a draft up hands over what a preview in its place would have shown, once and
nothing else. If the preview would have shown a fault, nothing is handed over or logged, and the
fault is the answer. This holds behind any conversation, because the calls in front of it hand
nothing over.

Rows are read from what the connection yields, which may break off. All rows and the first row are
therefore described by the items that fetching gives, in the order in which they arrive.
-/

namespace SqlBuilder

/-! ## Reading rows -/

section

variable {ρ ε : Type}

/-- What reading all rows gives: the rows if there is no failure among the items, and otherwise
the first failure alone. -/
inductive AllRows : List (Except (Failure ε) ρ) → Reply ρ ε → Prop
  | rows (rs : List ρ) : AllRows (rs.map .ok) (.rows rs)
  | failed (rs : List ρ) (f : Failure ε) (rest : List (Except (Failure ε) ρ)) :
    AllRows (rs.map .ok ++ .error f :: rest) (.failed f)

/-- What reading the first row gives: the first item, if there is one. -/
inductive FirstRow : List (Except (Failure ε) ρ) → Reply ρ ε → Prop
  | none : FirstRow [] (.row none)
  | row (r : ρ) (rest : List (Except (Failure ε) ρ)) : FirstRow (.ok r :: rest) (.row (some r))
  | failed (f : Failure ε) (rest : List (Except (Failure ε) ρ)) :
    FirstRow (.error f :: rest) (.failed f)

theorem exists_rows_or_failure (items : List (Except (Failure ε) ρ)) :
    (∃ rs : List ρ, items = rs.map .ok) ∨
      ∃ (rs : List ρ) (f : Failure ε) (rest : List (Except (Failure ε) ρ)),
        items = rs.map .ok ++ .error f :: rest := by
  induction items with
  | nil => exact Or.inl ⟨[], rfl⟩
  | cons item items ih =>
    cases item with
    | error f => exact Or.inr ⟨[], f, items, rfl⟩
    | ok r =>
      rcases ih with ⟨rs, rfl⟩ | ⟨rs, f, rest, rfl⟩
      · exact Or.inl ⟨r :: rs, rfl⟩
      · exact Or.inr ⟨r :: rs, f, rest, rfl⟩

theorem allRows_map_ok (rs : List ρ) :
    allRows (rs.map (.ok : ρ → Except (Failure ε) ρ)) = .ok rs := by
  refine mapM_eq_ok_iff.mpr ?_
  rw [List.forall₂_map_left_iff, List.forall₂_same]
  exact fun _ _ ↦ rfl

theorem allRows_append_failure (rs : List ρ) (f : Failure ε)
    (rest : List (Except (Failure ε) ρ)) :
    allRows (rs.map .ok ++ .error f :: rest) = .error f := by
  induction rs with
  | nil => rfl
  | cons r rs ih =>
    rw [allRows] at ih
    rw [allRows, List.map_cons, List.cons_append, List.mapM_cons, ih]
    rfl

theorem allRows_spec (items : List (Except (Failure ε) ρ)) :
    AllRows items (.ofRows (allRows items)) := by
  rcases exists_rows_or_failure items with ⟨rs, rfl⟩ | ⟨rs, f, rest, rfl⟩
  · rw [allRows_map_ok]
    exact .rows rs
  · rw [allRows_append_failure]
    exact .failed rs f rest

theorem firstRow_spec (items : List (Except (Failure ε) ρ)) :
    FirstRow items (.ofRow (firstRow items)) := by
  match items with
  | [] => exact .none
  | .ok r :: rest => exact .row r rest
  | .error f :: rest => exact .failed f rest

end

/-! ## Running any statement -/

namespace Draft

variable {α κ ξ σ ρ ε : Type} [Statement α κ] [SpecialCall ξ] [Conversant α κ ξ]
  [Connection σ ρ ε]

variable {db : Database σ} {b : Draft α}

/-- Running a draft executes what a preview in its place shows. -/
theorem answer_run (db : Database σ) (b : Draft α) :
    b.answer db .run =
      .ends (.ofUnit (db.submit (b.toQuery db.dialect)).1)
        (db.submit (b.toQuery db.dialect)).2 :=
  rfl

theorem answer_run_of_ok {q : Query} (h : b.toQuery db.dialect = .ok q) :
    b.answer db .run =
      .ends (.ofUnit ((Connection.execute db.connection q).1.mapError .execution))
        (db.after [.execute q]) := by
  rw [answer_run, h, Database.submit, Database.execute_eq]

theorem answer_run_of_error {e : BuildError} (h : b.toQuery db.dialect = .error e) :
    b.answer db .run = .ends (.failed (.build e)) db := by
  rw [answer_run, h, Database.submit, Reply.ofUnit]

/-- Behind every conversation, running a draft delivers what its preview shows. -/
structure Delivers (db : Database σ) (start : Draft α) : Prop where
  /-- The query is executed, and a refusal is reported as it is. -/
  run_of_ok : ∀ cs b q, start.after db cs = some b → b.toQuery db.dialect = .ok q →
    ∃ r, start.EndsWith db cs .run r (db.after [.execute q]) ∧
      ((Connection.execute db.connection q).1 = .ok () → r = .done) ∧
      ∀ x, (Connection.execute db.connection q).1 = .error x → r = .failed (.execution x)
  /-- A fault is reported, and nothing else happens. -/
  run_of_error : ∀ cs b e, start.after db cs = some b → b.toQuery db.dialect = .error e →
    start.EndsWith db cs .run (.failed (.build e)) db

theorem delivers (db : Database σ) (start : Draft α) : Delivers db start where
  run_of_ok cs b q hb hq := by
    refine ⟨_, endsWith_of_ends hb (answer_run_of_ok hq), fun h ↦ ?_, fun x h ↦ ?_⟩
    · rw [h]
      rfl
    · rw [h]
      rfl
  run_of_error cs b e hb he := endsWith_of_ends hb (answer_run_of_error he)

end Draft

/-! ## Executing an alteration change by change -/

section

variable {σ ρ ε : Type} [Connection σ ρ ε]

/-- Behind every conversation, executing an alteration change by change delivers queries that its
preview shows, from the first one on. -/
structure AlterTable.DeliversEach (db : Database σ) (start : Draft AlterTable) : Prop where
  /-- The queries are executed in their order, all of them or up to the first one that is
  refused. -/
  runEach_of_ok : ∀ cs b qs, start.after db cs = some b →
    b.preview (AlterTable.toQueries db.dialect) = .ok qs →
    ∃ n r db', start.EndsWith db cs (.special .runEach) r db' ∧
      db'.connection = Connection.after db.connection ((qs.take n).map .execute) ∧
      (n = qs.length ∧ Connection.ExecutesAll db.connection qs ∨
        ∃ m x, n = m + 1 ∧ Connection.RefusesAt db.connection qs m x)
  /-- A fault is reported, and nothing else happens. -/
  runEach_of_error : ∀ cs b e, start.after db cs = some b →
    b.preview (AlterTable.toQueries db.dialect) = .error e →
    start.EndsWith db cs (.special .runEach) (.failed (.build e)) db

theorem AlterTable.deliversEach (db : Database σ) (start : Draft AlterTable) :
    DeliversEach db start where
  runEach_of_ok cs b qs hb hqs := by
    have haccount := account_sendEach db b.content.table qs
    have hend := Draft.endsWith_of_ends hb (answer_runEach_of_ok hqs)
    rcases haccount.complete with hall | ⟨m, x, hm⟩
    · refine ⟨qs.length, _, _, hend, ?_, Or.inl ⟨rfl, hall⟩⟩
      rw [List.take_length]
      exact (haccount.done hall).2.1
    · refine ⟨m + 1, _, _, hend, ?_, Or.inr ⟨m, x, rfl, hm⟩⟩
      rcases Nat.eq_zero_or_pos m with rfl | hpos
      · exact (haccount.refused x hm).2.1
      · exact (haccount.applied m x hpos hm).2.1
  runEach_of_error cs b e hb he := Draft.endsWith_of_ends hb (answer_runEach_of_error he)

/-! ## Reading the rows of a selection -/

namespace Select

/-- Every way of reading rows fetches the same items first. -/
theorem answer_of_stream {db db' : Database σ} {b : Draft Select}
    {items : List (Except (Failure ε) ρ)} (h : db.stream (b.toQuery db.dialect) = (items, db')) :
    b.answer db (.special .fetch) = .ends (.items items) db' ∧
      b.answer db (.special .all) = .ends (.ofRows (allRows items)) db' ∧
      b.answer db (.special .first) = .ends (.ofRow (firstRow items)) db' := by
  have hspecial (x : SelectCall) : b.answer db (.special x) = Select.special db x b := rfl
  have hstream : db.stream (b.renderQuery db.dialect).1 = (items, db') := h
  rw [hspecial, hspecial, hspecial, special, special, special, hstream]
  exact ⟨rfl, rfl, rfl⟩

/-- Behind every conversation, reading rows delivers what the preview of the selection shows, and
all rows and the first row are those of the items that fetching gives. -/
structure DeliversRows (db : Database σ) (start : Draft Select) : Prop where
  /-- The query is fetched once, in whichever way its rows are read. -/
  rows_of_ok : ∀ cs b q, start.after db cs = some b → b.toQuery db.dialect = .ok q →
    ∃ items all first,
      items = (Connection.fetch db.connection q).1.map (·.mapError .execution) ∧
      start.EndsWith db cs (.special .fetch) (.items items) (db.after [.fetch q]) ∧
      start.EndsWith db cs (.special .all) all (db.after [.fetch q]) ∧ AllRows items all ∧
      start.EndsWith db cs (.special .first) first (db.after [.fetch q]) ∧ FirstRow items first
  /-- A fault is the only item, and nothing else happens. -/
  rows_of_error : ∀ cs b e, start.after db cs = some b → b.toQuery db.dialect = .error e →
    start.EndsWith db cs (.special .fetch) (.items [.error (.build e)]) db ∧
    start.EndsWith db cs (.special .all) (.failed (.build e)) db ∧
    start.EndsWith db cs (.special .first) (.failed (.build e)) db

theorem deliversRows (db : Database σ) (start : Draft Select) : DeliversRows db start where
  rows_of_ok cs b q hb hq := by
    have hstream : db.stream (b.toQuery db.dialect) =
        ((Connection.fetch db.connection q).1.map (·.mapError .execution),
          db.after [.fetch q]) := by
      rw [hq, Database.stream, Database.fetch_eq]
    obtain ⟨hfetch, hall, hfirst⟩ := answer_of_stream hstream
    exact ⟨_, _, _, rfl, Draft.endsWith_of_ends hb hfetch, Draft.endsWith_of_ends hb hall,
      allRows_spec _, Draft.endsWith_of_ends hb hfirst, firstRow_spec _⟩
  rows_of_error cs b e hb he := by
    have hstream : db.stream (b.toQuery db.dialect) = ([.error (.build e)], db) := by
      rw [he]
      rfl
    obtain ⟨hfetch, hall, hfirst⟩ := answer_of_stream hstream
    exact ⟨Draft.endsWith_of_ends hb hfetch, Draft.endsWith_of_ends hb hall,
      Draft.endsWith_of_ends hb hfirst⟩

end Select

/-- **Delivery.** Whatever was asked before, every call that uses a draft up hands over what its
preview shows, or nothing. -/
theorem Draft.delivers_statements (db : Database σ) :
    (∀ table, Draft.Delivers db ({ content := { table } } : Draft DropTable)) ∧
    (∀ table, Draft.Delivers db ({ content := { table } } : Draft CreateTable)) ∧
    (∀ table, Draft.Delivers db ({ content := { table } } : Draft AlterTable) ∧
      AlterTable.DeliversEach db { content := { table } }) ∧
    (∀ name, Draft.Delivers db ({ content := { name } } : Draft CreateIndex)) ∧
    (∀ table, Draft.Delivers db ({ content := { table } } : Draft Insert)) ∧
    Draft.Delivers db ({ content := {} } : Draft Select) ∧
      Select.DeliversRows db { content := {} } :=
  ⟨fun _ ↦ Draft.delivers db _, fun _ ↦ Draft.delivers db _,
    fun _ ↦ ⟨Draft.delivers db _, AlterTable.deliversEach db _⟩, fun _ ↦ Draft.delivers db _,
    fun _ ↦ Draft.delivers db _, Draft.delivers db _, Select.deliversRows db _⟩

/-- A removal that is looked at before it runs. -/
def Draft.removalCalls : List (Call DropTable.Clause Empty) :=
  [.clause .ifExists, .preview]

/-- The draft that `removalCalls` leave. -/
def Draft.removalDraft : Draft DropTable where
  content := { table := "t", ifExists := true }

/-- A database that refuses the next query. -/
def Draft.unwillingDatabase : Database Recorder where
  dialect := .mysql
  connection := { received := 2, failAt := 3 }

theorem Draft.delivers_statements_removal :
    ({ content := { table := "t" } } : Draft DropTable).after unwillingDatabase removalCalls
        = some removalDraft ∧
      removalDraft.toQuery .mysql = .ok ⟨"DROP TABLE IF EXISTS `t`", []⟩ ∧
      ({ content := { table := "t" } } : Draft DropTable).EndsWith unwillingDatabase removalCalls
        .run (.failed (.execution "statement 3 rejected"))
        (unwillingDatabase.after [.execute ⟨"DROP TABLE IF EXISTS `t`", []⟩]) := by
  have hafter : ({ content := { table := "t" } } : Draft DropTable).after unwillingDatabase
      removalCalls = some removalDraft := by
    rfl
  have hquery : removalDraft.toQuery .mysql = .ok ⟨"DROP TABLE IF EXISTS `t`", []⟩ := by
    decide +kernel
  obtain ⟨r, hends, -, hrefused⟩ :=
    ((delivers_statements unwillingDatabase).1 "t").run_of_ok _ _ _ hafter hquery
  obtain rfl := hrefused "statement 3 rejected" rfl
  exact ⟨hafter, hquery, hends⟩

end

end SqlBuilder
