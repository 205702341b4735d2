import SqlBuilder.Dialect.BuiltIn
import SqlBuilder.Proofs.Execution.Conclusion
import SqlBuilder.Proofs.Execution.Watching
import SqlBuilder.Proofs.Workload.Course

/-!
# The log as a chronicle

Every request is logged and then handed over. Seen by a watcher in front of the connection, the
requests of a whole session, or of a workload, are therefore those of the log, one by one. A refused
request is logged like any other. Whatever does not get as far as a request leaves the log alone,
and with it the whole database.
-/

namespace SqlBuilder

variable {σ ρ ε : Type}

/-! ## Events and requests -/

namespace Database

/-- Since `start` the log grew by the events of the requests that the watcher saw. -/
structure Keeps (start : Database σ) (db : Database (Watched σ)) : Prop where
  /-- The dialect stays. -/
  dialect : db.dialect = start.dialect
  /-- There is one event for each request. -/
  debugEvents : db.debugEvents =
    start.debugEvents ++ db.connection.requests.map (Request.event start.dialect)

namespace Keeps

variable {start : Database σ} {db db' : Database (Watched σ)}

variable [Connection σ ρ ε]

/-- Whatever hands requests over goes on with the chronicle. -/
theorem of_handsOver {rs : List Request} (h : start.Keeps db) (hover : db.HandsOver rs db') :
    start.Keeps db' where
  dialect := hover.dialect.trans h.dialect
  debugEvents := by
    rw [hover.debugEvents, hover.connection, Watched.requests_after, h.debugEvents, h.dialect,
      List.map_append, List.append_assoc]

section

variable [Recording σ]

theorem perform (h : start.Keeps db) (s : Step) : start.Keeps (db.perform s).2 := by
  by_cases hs : s = .take
  · subst hs
    exact ⟨h.dialect, h.debugEvents⟩
  · obtain ⟨rs, hover, -⟩ := db.submits_perform hs
    exact h.of_handsOver hover

theorem performAll (h : start.Keeps db) (ss : List Step) : start.Keeps (db.performAll ss).2 := by
  induction ss generalizing db with
  | nil => exact h
  | cons s ss ih => exact ih (h.perform s)

end

end Keeps

end Database

/-! ## What is not logged -/

namespace Draft

variable {α κ ξ : Type} [Statement α κ] [SpecialCall ξ] [Conversant α κ ξ] [Connection σ ρ ε]

variable [Submitting α]

end Draft

/-! ## The chronicle -/

section

variable [Connection σ ρ ε] [Recording σ]

end

end SqlBuilder
