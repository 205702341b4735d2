import SqlBuilder.Proofs.Execution.Delivery
import SqlBuilder.Proofs.Failure

/-!
# From one state of a database to another

Whatever runs on a database hands requests over one after another and logs each of them. What
happened between two states of the database is therefore told by a list of requests, and runs behind
one another have their lists appended. Other events may come in between, so only those of requests
are compared.

A request is refused by the answer that it gets. Rows may come first; it is the first refusal among
the items that counts, and a list of requests is handed over up to the first one that is refused.
-/

namespace SqlBuilder

variable {σ ρ ε : Type}

/-! ## The events of requests -/

namespace Database

/-- The events in the log that come with requests. -/
def debugEvents (db : Database σ) : List Event :=
  db.events.filter (·.level = .debug)

theorem debugEvents_log_of_ne (db : Database σ) {e : Event} (h : e.level ≠ .debug) :
    (db.log e).debugEvents = db.debugEvents := by
  rw [debugEvents, log, List.filter_append, List.filter_cons_of_neg (by simpa using h),
    List.filter_nil, List.append_nil, debugEvents]

variable [Connection σ ρ ε]

theorem debugEvents_after (db : Database σ) (rs : List Request) :
    (db.after rs).debugEvents = db.debugEvents ++ rs.map (Request.event db.dialect) := by
  have hloud : (rs.map (Request.event db.dialect)).filter (·.level = .debug) =
      rs.map (Request.event db.dialect) := by
    rw [List.filter_eq_self]
    intro e he
    obtain ⟨r, -, rfl⟩ := List.mem_map.mp he
    cases r with
    | execute q => rfl
    | fetch q => rfl
  rw [debugEvents, after, List.filter_append, hloud, debugEvents]

/-! ## What was handed over -/

/-- From `db` to `db'` exactly the requests `rs` were handed over, each logged in its turn. -/
structure HandsOver (db : Database σ) (rs : List Request) (db' : Database σ) : Prop where
  /-- The dialect stays. -/
  dialect : db'.dialect = db.dialect
  /-- The connection received the requests and nothing else. -/
  connection : db'.connection = Connection.after db.connection rs
  /-- The log grew by the events of the requests, and by none of another request. -/
  debugEvents : db'.debugEvents = db.debugEvents ++ rs.map (Request.event db.dialect)

theorem handsOver_after (db : Database σ) (rs : List Request) : db.HandsOver rs (db.after rs) :=
  ⟨rfl, rfl, debugEvents_after db rs⟩

theorem handsOver_nil (db : Database σ) : db.HandsOver [] db := by
  simpa using handsOver_after db []

namespace HandsOver

variable {db db₁ db₂ : Database σ} {rs ss : List Request}

theorem trans (h : db.HandsOver rs db₁) (h' : db₁.HandsOver ss db₂) :
    db.HandsOver (rs ++ ss) db₂ where
  dialect := h'.dialect.trans h.dialect
  connection := by
    rw [h'.connection, h.connection, Connection.after, Connection.after, Connection.after,
      List.foldl_append]
  debugEvents := by
    rw [h'.debugEvents, h.debugEvents, h.dialect, List.map_append, List.append_assoc]

/-- An event of another kind is no request. -/
theorem log (h : db.HandsOver rs db₁) {e : Event} (he : e.level ≠ .debug) :
    db.HandsOver rs (db₁.log e) where
  dialect := h.dialect
  connection := h.connection
  debugEvents := (debugEvents_log_of_ne db₁ he).trans h.debugEvents

/-- A connection that keeps a record has the queries of the requests on it. -/
theorem queries [Recording σ] [LawfulRecording σ] (h : db.HandsOver rs db₁) :
    Recording.queries db₁.connection =
      Recording.queries db.connection ++ rs.map Request.query := by
  rw [h.connection, Recording.queries_after]

end HandsOver

end Database

/-! ## What is refused -/

namespace Connection

variable [Connection σ ρ ε]

/-- The refusal of a request, if the connection refuses it. -/
def refusal? (c : σ) : Request → Option ε
  | .execute q => fault? (execute c q).1
  | .fetch q => (fetch c q).1.findSome? fault?

/-- The first request that the connection refuses, each behind those in front of it: its position
from zero, and the refusal. -/
def firstRefusal? (c : σ) : List Request → Option (Nat × ε)
  | [] => none
  | r :: rs =>
    match refusal? c r with
    | some x => some (0, x)
    | none => (firstRefusal? (receive c r) rs).map fun refused ↦ (refused.1 + 1, refused.2)

variable {c : σ} {r : Request}

theorem firstRefusal?_cons_of_some {x : ε} (h : refusal? c r = some x) (rs : List Request) :
    firstRefusal? c (r :: rs) = some (0, x) := by
  rw [firstRefusal?, h]

theorem firstRefusal?_cons_of_none (h : refusal? c r = none) (rs : List Request) :
    firstRefusal? c (r :: rs) =
      (firstRefusal? (receive c r) rs).map fun refused ↦ (refused.1 + 1, refused.2) := by
  rw [firstRefusal?, h]

end Connection

theorem fault?_mapError {δ α : Type} (x : Except ε α) (f : ε → δ) :
    fault? (x.mapError f) = (fault? x).map f := by
  cases x with
  | ok a => rfl
  | error e => rfl

/-- Reading all rows fails with the first failure among the items. -/
theorem fault?_allRows (items : List (Except (Failure ε) ρ)) :
    fault? (allRows items) = items.findSome? fault? := by
  rcases exists_rows_or_failure items with ⟨rs, rfl⟩ | ⟨rs, f, rest, rfl⟩
  · rw [allRows_map_ok, List.findSome?_map]
    exact (List.findSome?_eq_none_iff.mpr fun _ _ ↦ rfl).symm
  · have hrows : (rs.map (.ok : ρ → Except (Failure ε) ρ)).findSome? fault? = none := by
      rw [List.findSome?_map]
      exact List.findSome?_eq_none_iff.mpr fun _ _ ↦ rfl
    rw [allRows_append_failure, List.findSome?_append, hrows]
    rfl

namespace Database

variable [Connection σ ρ ε]

theorem fault?_execute (db : Database σ) (q : Query) :
    fault? (db.execute q).1 = (Connection.refusal? db.connection (.execute q)).map .execution :=
  fault?_mapError _ _

theorem fault?_allRows_fetch (db : Database σ) (q : Query) :
    fault? (allRows (db.fetch q).1) =
      (Connection.refusal? db.connection (.fetch q)).map .execution := by
  have hitem : (fault? ∘ fun item : Except ε ρ ↦ item.mapError Failure.execution) =
      fun item ↦ (fault? item).map Failure.execution :=
    funext fun item ↦ fault?_mapError item _
  rw [fault?_allRows, fetch_eq, List.findSome?_map, hitem, Connection.refusal?,
    List.map_findSome?]
  rfl

end Database

end SqlBuilder
