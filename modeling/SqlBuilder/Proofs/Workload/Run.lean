import SqlBuilder.Proofs.Failure
import SqlBuilder.Workload.Basic

/-!
# Runs of a workload

A run stops at the first task that fails. A task fails because its statement could not be built or
because the connection refuses, so a run that stops for a fault of a statement names one of its own
statements, and a run that gets to its end had all of them built.
-/

namespace SqlBuilder.Task

variable {σ ρ ε : Type} [Connection σ ρ ε]

/-- The statement of a task, if it has one. -/
def statement? : Task → Option (Except BuildError Query)
  | announce .. => none
  | execute statement => some statement
  | count _ statement => some statement

/-- The statements of the tasks could be built. -/
def AllBuilt (ts : List Task) : Prop :=
  ∀ t ∈ ts, ∀ statement, t.statement? = some statement → ∃ q, statement = .ok q

variable {db db' : Database σ} {t : Task} {ts : List Task} {f : Failure ε}

/-! ## One task -/

/-- A connection does not refuse for a fault of a statement. -/
theorem execute_ne_build (db : Database σ) (q : Query) (e : BuildError) :
    (db.execute q).1 ≠ .error (.build e) := by
  rw [Database.execute]
  intro h
  cases hsend : (db.send q).1 with
  | ok u =>
    rw [hsend] at h
    exact nomatch h
  | error x =>
    rw [hsend] at h
    exact nomatch h

theorem allRows_fetch_ne_build (db : Database σ) (q : Query) (e : BuildError) :
    allRows (db.fetch q).1 ≠ .error (.build e) := by
  have hitems : FailsOnly (allRows (db.fetch q).1) fun f ↦ ∃ x, f = .execution x := by
    refine .mapM fun item hitem ↦ ?_
    obtain ⟨answer, -, rfl⟩ := List.mem_map.mp hitem
    cases answer with
    | ok row => exact failsOnly_ok row
    | error x => exact failsOnly_error ⟨x, rfl⟩
  intro h
  obtain ⟨x, hx⟩ := hitems _ h
  exact nomatch hx

/-- A task that fails for a fault of a statement has that statement. -/
theorem statement?_of_build {e : BuildError} (h : (t.perform db).1 = .error (.build e)) :
    t.statement? = some (.error e) := by
  cases t with
  | announce message fields => exact nomatch h
  | execute statement =>
    cases statement with
    | ok q => exact absurd h (execute_ne_build db q e)
    | error e' =>
      cases h
      rfl
  | count message statement =>
    cases statement with
    | ok q =>
      cases hrows : allRows (db.fetch q).1 with
      | ok rows =>
        rw [perform, Database.stream, hrows] at h
        exact nomatch h
      | error f =>
        rw [perform, Database.stream, hrows] at h
        obtain rfl := Except.error.inj h
        exact absurd hrows (allRows_fetch_ne_build db q e)
    | error e' =>
      cases h
      rfl

/-- A task that is done had its statement built. -/
theorem built_of_perform (h : (t.perform db).1 = .ok ()) {statement : Except BuildError Query}
    (ht : t.statement? = some statement) : ∃ q, statement = .ok q := by
  cases statement with
  | ok q => exact ⟨q, rfl⟩
  | error e =>
    cases t with
    | announce message fields => exact nomatch ht
    | execute statement =>
      obtain rfl := Option.some.inj ht
      exact nomatch h
    | count message statement =>
      obtain rfl := Option.some.inj ht
      exact nomatch h

/-! ## All tasks -/

theorem performAll_cons_of_ok (h : t.perform db = (.ok (), db')) :
    performAll db (t :: ts) = performAll db' ts := by
  rw [performAll, h]

theorem performAll_cons_of_error (h : t.perform db = (.error f, db')) :
    performAll db (t :: ts) = (.error f, db') := by
  rw [performAll, h]

/-- The first task is done and the others follow, or it fails and nothing follows. -/
theorem performAll_cons (db : Database σ) (t : Task) (ts : List Task) :
    (∃ db', t.perform db = (.ok (), db') ∧ performAll db (t :: ts) = performAll db' ts) ∨
      ∃ f db', t.perform db = (.error f, db') ∧ performAll db (t :: ts) = (.error f, db') := by
  rcases hperform : t.perform db with ⟨result, db'⟩
  cases result with
  | ok u => exact Or.inl ⟨db', rfl, performAll_cons_of_ok hperform⟩
  | error f => exact Or.inr ⟨f, db', rfl, performAll_cons_of_error hperform⟩

/-- Tasks behind others are done where the others end. -/
theorem performAll_append_of_ok (us : List Task) (h : performAll db ts = (.ok (), db')) :
    performAll db (ts ++ us) = performAll db' us := by
  induction ts generalizing db with
  | nil =>
    obtain rfl := (Prod.mk.inj h).2
    rfl
  | cons t ts ih =>
    rcases performAll_cons db t ts with ⟨db₁, hperform, hrest⟩ | ⟨f, db₁, hperform, hrest⟩
    · rw [hrest] at h
      rw [List.cons_append, performAll_cons_of_ok hperform, ih h]
    · rw [hrest] at h
      exact nomatch h

theorem performAll_append_of_error (us : List Task) (h : performAll db ts = (.error f, db')) :
    performAll db (ts ++ us) = (.error f, db') := by
  induction ts generalizing db with
  | nil => exact nomatch h
  | cons t ts ih =>
    rcases performAll_cons db t ts with ⟨db₁, hperform, hrest⟩ | ⟨f', db₁, hperform, hrest⟩
    · rw [hrest] at h
      rw [List.cons_append, performAll_cons_of_ok hperform, ih h]
    · rw [hrest] at h
      rw [List.cons_append, performAll_cons_of_error hperform, h]

/-- A run that fails for a fault of a statement has that statement among its own. -/
theorem exists_statement?_of_build {e : BuildError}
    (h : (performAll db ts).1 = .error (.build e)) : ∃ t ∈ ts, t.statement? = some (.error e) := by
  induction ts generalizing db with
  | nil => exact nomatch h
  | cons t ts ih =>
    rcases performAll_cons db t ts with ⟨db₁, hperform, hrest⟩ | ⟨f, db₁, hperform, hrest⟩
    · rw [hrest] at h
      obtain ⟨t', ht', hstatement⟩ := ih h
      exact ⟨t', List.mem_cons_of_mem _ ht', hstatement⟩
    · rw [hrest, ← hperform] at h
      exact ⟨t, List.mem_cons_self, statement?_of_build h⟩

/-- A run that gets to its end had all its statements built. -/
theorem allBuilt_of_performAll (h : (performAll db ts).1 = .ok ()) : AllBuilt ts := by
  induction ts generalizing db with
  | nil => exact fun _ ht ↦ absurd ht List.not_mem_nil
  | cons t ts ih =>
    rcases performAll_cons db t ts with ⟨db₁, hperform, hrest⟩ | ⟨f, db₁, hperform, hrest⟩
    · rw [hrest] at h
      have ht : (t.perform db).1 = .ok () := congrArg Prod.fst hperform
      exact List.forall_mem_cons.mpr ⟨fun _ hstatement ↦ built_of_perform ht hstatement, ih h⟩
    · rw [hrest] at h
      exact nomatch h

end SqlBuilder.Task
