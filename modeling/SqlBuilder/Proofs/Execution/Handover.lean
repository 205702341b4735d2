import SqlBuilder.Execution.Database

/-!
# What is handed over

A connection may be any state machine, and not every connection keeps a record. What was handed to
it is therefore said by the state that it is in: the state behind a list of requests, each in its
turn. A connection that does keep a record has just these requests on it. With every request goes
one event in the log, so the same list describes the log.

Queries that are executed one after another end in one of two ways: the connection executes them
all, or there is a first one that it refuses. How many were executed before that one is counted by
the connection's own answers, whatever the connection received earlier.
-/

namespace SqlBuilder

/-! ## Requests -/

/-- What a connection is handed. -/
inductive Request where
  /-- A query that yields no rows. -/
  | execute (q : Query)
  /-- A query that yields rows. -/
  | fetch (q : Query)
deriving DecidableEq, Repr

/-- The query that is handed over. -/
def Request.query : Request → Query
  | execute q | fetch q => q

/-- The event that is logged with a request. -/
def Request.event (d : Dialect) : Request → Event
  | execute q => .executing d q
  | fetch q => .fetching d q

section

variable {σ ρ ε : Type} [Connection σ ρ ε]

/-- The connection behind a request. -/
def Connection.receive (c : σ) : Request → σ
  | .execute q => (Connection.execute c q).2
  | .fetch q => (Connection.fetch c q).2

/-- The connection behind requests, each in its turn. -/
def Connection.after (c : σ) (rs : List Request) : σ :=
  rs.foldl Connection.receive c

/-- Connections that put every query on record that they receive. -/
class LawfulRecording (σ : Type) {ρ ε : outParam Type} [Connection σ ρ ε] [Recording σ] : Prop where
  queries_receive (c : σ) (r : Request) :
    Recording.queries (Connection.receive c r) = Recording.queries c ++ [r.query]

instance : LawfulRecording DryRun where
  queries_receive c r := by cases r <;> rfl

instance : LawfulRecording Recorder where
  queries_receive c r := by cases r <;> rfl

/-- The record behind requests has their queries in the order in which they were made. -/
theorem Recording.queries_after [Recording σ] [LawfulRecording σ] (c : σ) (rs : List Request) :
    queries (Connection.after c rs) = queries c ++ rs.map Request.query := by
  induction rs generalizing c with
  | nil => exact (List.append_nil _).symm
  | cons r rs ih =>
    have hrest : queries (Connection.after (Connection.receive c r) rs) =
        queries (Connection.receive c r) ++ rs.map Request.query := ih _
    rw [LawfulRecording.queries_receive] at hrest
    rw [List.map_cons, List.append_cons]
    exact hrest

namespace Database

/-- The database behind requests, each in its turn. -/
def after (db : Database σ) (rs : List Request) : Database σ :=
  { db with
    connection := Connection.after db.connection rs
    events := db.events ++ rs.map (Request.event db.dialect) }

variable (db : Database σ) (rs : List Request) (q : Query)

@[simp] theorem after_nil : db.after [] = db := by
  rw [after, List.map_nil, List.append_nil]
  rfl

theorem after_after (ss : List Request) : (db.after rs).after ss = db.after (rs ++ ss) := by
  simp only [after, Connection.after, List.foldl_append, List.map_append, List.append_assoc]

theorem send_eq : db.send q = ((Connection.execute db.connection q).1, db.after [.execute q]) :=
  rfl

theorem execute_eq :
    db.execute q =
      ((Connection.execute db.connection q).1.mapError .execution, db.after [.execute q]) :=
  rfl

theorem fetch_eq :
    db.fetch q =
      ((Connection.fetch db.connection q).1.map (·.mapError .execution), db.after [.fetch q]) :=
  rfl

/-- The warnings in the log. -/
def warnings (db : Database σ) : List Event :=
  db.events.filter (·.level = .warn)

/-- Handing a query over is no reason for a warning. -/
@[simp] theorem warnings_after : (db.after rs).warnings = db.warnings := by
  have hquiet : (rs.map (Request.event db.dialect)).filter (·.level = .warn) = [] := by
    rw [List.filter_eq_nil_iff]
    intro e he
    obtain ⟨r, -, rfl⟩ := List.mem_map.mp he
    cases r with
    | execute q => exact Bool.false_ne_true
    | fetch q => exact Bool.false_ne_true
  rw [warnings, after, List.filter_append, hquiet, List.append_nil, warnings]

theorem warnings_log_of_warn (db : Database σ) {e : Event} (h : e.level = .warn) :
    (db.log e).warnings = db.warnings ++ [e] := by
  rw [warnings, log, List.filter_append, List.filter_cons_of_pos (by simpa using h),
    List.filter_nil, warnings]

end Database

/-! ## One query after another -/

/-- The connection executes all queries, each behind those in front of it. -/
inductive Connection.ExecutesAll : σ → List Query → Prop
  | nil (c : σ) : ExecutesAll c []
  | cons {c : σ} {q : Query} {qs : List Query} (h : (Connection.execute c q).1 = .ok ())
    (hs : ExecutesAll (Connection.execute c q).2 qs) : ExecutesAll c (q :: qs)

/-- The connection executes the first `n` queries, each behind those in front of it, and refuses
the next one. -/
inductive Connection.RefusesAt : σ → List Query → Nat → ε → Prop
  | here {c : σ} {q : Query} {qs : List Query} {x : ε} (h : (Connection.execute c q).1 = .error x) :
    RefusesAt c (q :: qs) 0 x
  | later {c : σ} {q : Query} {qs : List Query} {n : Nat} {x : ε}
    (h : (Connection.execute c q).1 = .ok ()) (hs : RefusesAt (Connection.execute c q).2 qs n x) :
    RefusesAt c (q :: qs) (n + 1) x

theorem Connection.executesAll_or_refusesAt (c : σ) (qs : List Query) :
    ExecutesAll c qs ∨ ∃ n x, RefusesAt c qs n x := by
  induction qs generalizing c with
  | nil => exact Or.inl (.nil c)
  | cons q qs ih =>
    cases h : (Connection.execute c q).1 with
    | error x => exact Or.inr ⟨0, x, .here h⟩
    | ok u =>
      rcases ih (Connection.execute c q).2 with hs | ⟨n, x, hs⟩
      · exact Or.inl (.cons h hs)
      · exact Or.inr ⟨n + 1, x, .later h hs⟩

namespace Database

variable {db : Database σ} {q : Query} {qs : List Query} {table : String} {total : Nat} {x : ε}

theorem sendEach_cons_of_ok (h : (Connection.execute db.connection q).1 = .ok ()) (applied : Nat) :
    db.sendEach table total applied (q :: qs) =
      (db.after [.execute q]).sendEach table total (applied + 1) qs := by
  rw [sendEach, send_eq, h]

theorem sendEach_cons_of_error (h : (Connection.execute db.connection q).1 = .error x)
    (applied : Nat) :
    db.sendEach table total applied (q :: qs) =
      if applied = 0 then (.error (.execution x), db.after [.execute q])
      else
        (.error (.partiallyApplied applied total x),
          (db.after [.execute q]).log
            (.partiallyApplied table applied total (Connection.refusalText σ x))) := by
  rw [sendEach, send_eq, h]

theorem sendEach_of_executesAll (h : Connection.ExecutesAll db.connection qs) (applied : Nat) :
    db.sendEach table total applied qs = (.ok (), db.after (qs.map .execute)) := by
  generalize hc : db.connection = c at h
  induction h generalizing db applied with
  | nil c => rw [sendEach, List.map_nil, after_nil]
  | @cons c q qs h hs ih =>
    subst hc
    rw [sendEach_cons_of_ok h, ih _ rfl, after_after, List.map_cons,
      List.singleton_append]

/-- Behind a refusal nothing is handed over. The refusal is a failure of the whole unless something
was applied before. -/
theorem sendEach_of_refusesAt {n : Nat} (h : Connection.RefusesAt db.connection qs n x)
    (applied : Nat) :
    db.sendEach table total applied qs =
      if applied + n = 0 then (.error (.execution x), db.after ((qs.take (n + 1)).map .execute))
      else
        (.error (.partiallyApplied (applied + n) total x),
          (db.after ((qs.take (n + 1)).map .execute)).log
            (.partiallyApplied table (applied + n) total (Connection.refusalText σ x))) := by
  generalize hc : db.connection = c at h
  induction h generalizing db applied with
  | @here c q qs x h =>
    subst hc
    rw [sendEach_cons_of_error h]
    rfl
  | @later c q qs n x h hs ih =>
    subst hc
    have hcount : applied + 1 + n = applied + (n + 1) := by omega
    rw [sendEach_cons_of_ok h, ih _ rfl, after_after, List.take_succ_cons, List.map_cons,
      List.singleton_append, hcount]

end Database

end

end SqlBuilder
