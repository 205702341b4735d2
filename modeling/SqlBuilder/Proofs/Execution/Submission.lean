import SqlBuilder.Proofs.Drafting.Forms
import SqlBuilder.Proofs.Execution.Transfer

/-!
# Queries that are to be handed over

Queries that are to be handed over all are, if the connection refuses nothing. Otherwise they are
handed over up to the first one that is refused. Nothing is handed over for a statement that could
not be built, and only such a statement is answered by a fault: what a connection answers is never
mistaken for one.
-/

namespace SqlBuilder

variable {σ ρ ε : Type}

/-! ## Handing queries over -/

/-- The connections of this kind execute every query. -/
def Connection.GrantsAll (σ : Type) {ρ ε : outParam Type} [Connection σ ρ ε] : Prop :=
  ∀ (c : σ) (q : Query), (Connection.execute c q).1 = .ok ()

theorem Connection.GrantsAll.executesAll [Connection σ ρ ε] (h : GrantsAll σ) (c : σ)
    (qs : List Query) : ExecutesAll c qs := by
  induction qs generalizing c with
  | nil => exact .nil c
  | cons q qs ih => exact .cons (h c q) (ih _)

namespace Database

variable [Connection σ ρ ε]

/-- From `db` to `db'` the queries `qs` were to be handed over. -/
def Submits (db : Database σ) (qs : List Query) (db' : Database σ) : Prop :=
  ∃ rs, db.HandsOver rs db' ∧ rs.map Request.query <+: qs ∧
    (Connection.GrantsAll σ → rs.map Request.query = qs)

theorem submits_nil (db : Database σ) : db.Submits [] db :=
  ⟨[], handsOver_nil db, List.prefix_refl [], fun _ ↦ rfl⟩

theorem submits_after (db : Database σ) (r : Request) : db.Submits [r.query] (db.after [r]) :=
  ⟨[r], handsOver_after db [r], List.prefix_refl _, fun _ ↦ rfl⟩

theorem submits_submit (db : Database σ) (x : Except BuildError Query) :
    db.Submits x.toOption.toList (db.submit x).2 := by
  cases x with
  | ok q => exact submits_after db (.execute q)
  | error e => exact submits_nil db

theorem submits_stream (db : Database σ) (x : Except BuildError Query) :
    db.Submits x.toOption.toList (db.stream x).2 := by
  cases x with
  | ok q => exact submits_after db (.fetch q)
  | error e => exact submits_nil db

theorem submits_sendEach (db : Database σ) (table : String) (qs : List Query) :
    db.Submits qs (db.sendEach table qs.length 0 qs).2 := by
  have hqueries (rs : List Query) : (rs.map Request.execute).map Request.query = rs := by
    rw [List.map_map]
    exact List.map_id rs
  by_cases hall : Connection.ExecutesAll db.connection qs
  · rw [sendEach_of_executesAll hall]
    exact ⟨qs.map .execute, handsOver_after db _,
      ⟨[], (List.append_nil _).trans (hqueries qs)⟩, fun _ ↦ hqueries qs⟩
  · obtain ⟨n, x, hn⟩ :=
      (Connection.executesAll_or_refusesAt db.connection qs).resolve_left hall
    have hover := handsOver_after db ((qs.take (n + 1)).map .execute)
    refine ⟨(qs.take (n + 1)).map .execute, ?_, ?_, fun hgrants ↦
      absurd (hgrants.executesAll db.connection qs) hall⟩
    · rw [sendEach_of_refusesAt hn]
      split
      · exact hover
      · exact hover.log (by simp [Event.partiallyApplied])
    · rw [hqueries]
      exact List.take_prefix (n + 1) qs

theorem submits_submitEach (db : Database σ) (table : String)
    (x : Except BuildError (List Query)) :
    db.Submits (x.toOption.getD []) (db.submitEach table x).2 := by
  cases x with
  | ok qs => exact submits_sendEach db table qs
  | error e => exact submits_nil db

end Database

/-! ## Faults -/

/-- The answer is a fault of the statement. -/
def Reply.IsFault (r : Reply ρ ε) : Prop :=
  ∃ e, r = .failed (.build e) ∨ r = .items [.error (.build e)]

namespace Database

variable [Connection σ ρ ε]

/-- A connection never answers with a fault of the statement. -/
theorem not_isFault_execute (db : Database σ) (q : Query) :
    ¬(.ofUnit (db.execute q).1 : Reply ρ ε).IsFault := by
  rw [execute_eq]
  cases (Connection.execute db.connection q).1 with
  | ok u =>
    rintro ⟨e, h | h⟩
    · exact nomatch h
    · exact nomatch h
  | error x =>
    rintro ⟨e, h | h⟩
    · exact nomatch h
    · exact nomatch h

theorem not_isFault_sendEach (db : Database σ) (table : String) (qs : List Query) :
    ¬(.ofUnit (db.sendEach table qs.length 0 qs).1 : Reply ρ ε).IsFault := by
  rintro ⟨e, h | h⟩
  · exact AlterTable.sendEach_ne_build db table qs e h
  · cases hresult : (db.sendEach table qs.length 0 qs).1 with
    | ok u =>
      rw [hresult] at h
      exact nomatch h
    | error f =>
      rw [hresult] at h
      exact nomatch h

theorem ne_build_of_mem_fetch (db : Database σ) (q : Query) (e : BuildError) :
    (.error (.build e)) ∉ (db.fetch q).1 := by
  rw [fetch_eq]
  intro h
  obtain ⟨item, -, hitem⟩ := List.mem_map.mp h
  cases item with
  | ok row => exact nomatch hitem
  | error x => exact nomatch hitem

/-- Reading rows fails with a failure that is among the items. -/
theorem not_isFault_of_rows (items : List (Except (Failure ε) ρ))
    (h : ∀ e, .error (.build e) ∉ items) :
    ¬(.items items : Reply ρ ε).IsFault ∧ ¬(.ofRows (allRows items) : Reply ρ ε).IsFault ∧
      ¬(.ofRow (firstRow items) : Reply ρ ε).IsFault := by
  have hall := allRows_spec items
  have hfirst := firstRow_spec items
  refine ⟨?_, fun hfault ↦ ?_, fun hfault ↦ ?_⟩
  · rintro ⟨e, hitems | hitems⟩
    · exact nomatch hitems
    · rw [Reply.items.inj hitems] at h
      exact h e List.mem_cons_self
  · generalize (.ofRows (allRows items) : Reply ρ ε) = r at hall hfault
    obtain ⟨e, rfl | rfl⟩ := hfault
    · cases hall with
      | failed rs f rest => exact h e (List.mem_append_right _ List.mem_cons_self)
    · exact nomatch hall
  · generalize (.ofRow (firstRow items) : Reply ρ ε) = r at hfirst hfault
    obtain ⟨e, rfl | rfl⟩ := hfault
    · cases hfirst with
      | failed f rest => exact h e List.mem_cons_self
    · exact nomatch hfirst

end Database

end SqlBuilder
