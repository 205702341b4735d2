import SqlBuilder.Dialect.BuiltIn
import SqlBuilder.Proofs.Drafting.Lifecycle
import SqlBuilder.Proofs.Execution.Handover

/-!
# Alterations step by step

An alteration that is executed change by change is not undone when a change is refused, so what is
reported must say how far it got. The number of applied changes is also the position, from zero, of
the change that was refused; at position zero nothing was applied, and the report is that of a
single query that was refused.
-/

namespace SqlBuilder

namespace AlterTable

variable {σ ρ ε : Type} [Connection σ ρ ε]

/-- What is reported and what was done when the queries `qs` of an alteration of `table` were to be
executed one after another. -/
structure Account (db : Database σ) (table : String) (qs : List Query) (r : Reply ρ ε)
    (db' : Database σ) : Prop where
  /-- Either all were executed, or there is a first one that was refused. -/
  complete : Connection.ExecutesAll db.connection qs ∨
    ∃ n x, Connection.RefusesAt db.connection qs n x
  /-- All were executed. -/
  done : Connection.ExecutesAll db.connection qs →
    r = .done ∧ db'.connection = Connection.after db.connection (qs.map .execute) ∧
      db'.warnings = db.warnings
  /-- The first one was refused, and nothing else was handed over. -/
  refused : ∀ x, Connection.RefusesAt db.connection qs 0 x →
    r = .failed (.execution x) ∧
      db'.connection = Connection.after db.connection ((qs.take 1).map .execute) ∧
      db'.warnings = db.warnings
  /-- One was refused behind others, which is also warned of. -/
  applied : ∀ n x, 0 < n → Connection.RefusesAt db.connection qs n x →
    r = .failed (.partiallyApplied n qs.length x) ∧
      db'.connection = Connection.after db.connection ((qs.take (n + 1)).map .execute) ∧
      db'.warnings = db.warnings ++
        [.partiallyApplied table n qs.length (Connection.refusalText σ x)]

theorem account_sendEach (db : Database σ) (table : String) (qs : List Query) :
    Account db table qs (.ofUnit (db.sendEach table qs.length 0 qs).1)
      (db.sendEach table qs.length 0 qs).2 where
  complete := Connection.executesAll_or_refusesAt db.connection qs
  done h := by
    rw [Database.sendEach_of_executesAll h]
    exact ⟨rfl, rfl, Database.warnings_after _ _⟩
  refused x h := by
    rw [Database.sendEach_of_refusesAt h, if_pos rfl]
    exact ⟨rfl, rfl, Database.warnings_after _ _⟩
  applied n x hn h := by
    rw [Database.sendEach_of_refusesAt h, Nat.zero_add, if_neg (Nat.ne_of_gt hn)]
    refine ⟨rfl, rfl, ?_⟩
    rw [Database.warnings_log_of_warn _ rfl, Database.warnings_after]

variable {db : Database σ} {table : String} {b : Draft AlterTable}
  {cs : List (Call AlterOperation AlterCall)}

/-- Executing an alteration change by change executes what a preview in its place shows. -/
theorem answer_runEach (db : Database σ) (b : Draft AlterTable) :
    b.answer db (.special .runEach) =
      .ends (.ofUnit (db.submitEach b.content.table (b.preview (toQueries db.dialect))).1)
        (db.submitEach b.content.table (b.preview (toQueries db.dialect))).2 :=
  rfl

theorem answer_runEach_of_ok {qs : List Query}
    (h : b.preview (toQueries db.dialect) = .ok qs) :
    b.answer db (.special .runEach) =
      .ends (.ofUnit (db.sendEach b.content.table qs.length 0 qs).1)
        (db.sendEach b.content.table qs.length 0 qs).2 := by
  rw [answer_runEach, h, Database.submitEach]

theorem answer_runEach_of_error {e : BuildError}
    (h : b.preview (toQueries db.dialect) = .error e) :
    b.answer db (.special .runEach) = .ends (.failed (.build e)) db := by
  rw [answer_runEach, h, Database.submitEach, Reply.ofUnit]

end AlterTable

end SqlBuilder
