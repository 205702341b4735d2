import SqlBuilder.Dialect.BuiltIn
import SqlBuilder.Proofs.Drafting.Batch
import SqlBuilder.Proofs.Workload.Run
import SqlBuilder.Workload.Planets

/-!
# The last changes of the planets workload

The workload asks the table of the dialect whether one statement may make several changes, and the
builder asks the dialect itself. Where the two agree the workload never draws up a statement that
the builder refuses for the number of its changes. Where only the table allows several changes, it
does so as soon as everything before them was done.
-/

namespace SqlBuilder.Planets

open BuildError

variable {d : Dialect}

/-! ## What comes before -/

/-- The tasks before the changes that go several to a statement. -/
def beforeBatches (d : Dialect) : List Task :=
  createSchema d ++ seedTables d ++ [phase "Altering schema",
    run d { table := "planets" : AlterTable } [.addColumn (plainColumn "extra" .int)]]

/-- The changes that go several to a statement, or why they are left out. -/
def batches (d : Dialect) : List Task :=
  if d.alterTable.allowsBatch then alterInBatches d else [skipBatches d]

theorem tasks_eq (d : Dialect) : tasks d = beforeBatches d ++ batches d :=
  (List.append_assoc _ _ _).symm

/-- The statement of the task, if it has one, does not fail for the number of its changes, unless
the dialect answers just that in the place of a literal. -/
def NotCounted (d : Dialect) (t : Task) : Prop :=
  ∀ statement, t.statement? = some statement → FailsOnly statement (BuildError.NotCounted d)

theorem notCounted_phase (d : Dialect) (message : String) : NotCounted d (phase message) :=
  nofun

theorem notCounted_execute {statement : Except BuildError Query}
    (h : FailsOnly statement (BuildError.NotCounted d)) : NotCounted d (.execute statement) := by
  intro statement' hstatement
  obtain rfl := Option.some.inj hstatement
  exact h

theorem notCounted_count {message : String} {statement : Except BuildError Query}
    (h : FailsOnly statement (BuildError.NotCounted d)) :
    NotCounted d (.count message statement) := by
  intro statement' hstatement
  obtain rfl := Option.some.inj hstatement
  exact h

theorem notCounted_createSchema (d : Dialect) : ∀ t ∈ createSchema d, NotCounted d t := by
  have hdrop (table : String) : NotCounted d (run d { table : DropTable } [.ifExists]) :=
    notCounted_execute (Draft.notCounted_draft
      (fun s ↦ s.failsOnly_fragment.mono fun _ h ↦ (h.notBatch nofun).notCounted d) _ _)
  have hcreate (table : String) (ks : List CreateTable.Clause) :
      NotCounted d (run d { table : CreateTable } ks) :=
    notCounted_execute (Draft.notCounted_draft (fun s ↦ s.notCounted_fragment) _ _)
  have hindex (name : String) (ks : List CreateIndex.Clause) :
      NotCounted d (run d { name : CreateIndex } ks) :=
    notCounted_execute (Draft.notCounted_draft
      (fun s ↦ s.failsOnly_fragment.mono fun _ h ↦ (h.notBatch nofun).notCounted d) _ _)
  have halter (op : AlterOperation) :
      NotCounted d (run d { table := "planets" : AlterTable } [op]) :=
    notCounted_execute (Draft.notCounted_draft_alterTable (Or.inl (Nat.le_refl 1)))
  simp only [createSchema, List.forall_mem_cons]
  exact ⟨notCounted_phase _ _, hdrop _, hdrop _, hcreate _ _, hcreate _ _, halter _, hindex _ _,
    fun _ h ↦ absurd h List.not_mem_nil⟩

theorem notCounted_seedTables (d : Dialect) : ∀ t ∈ seedTables d, NotCounted d t := by
  have hinsert (table : String) (ks : List Insert.Clause) :
      NotCounted d (run d { table : Insert } ks) :=
    notCounted_execute (Draft.notCounted_draft Insert.notCounted_fragment _ _)
  have hselect (ks : List Select.Clause) :
      FailsOnly (Statement.draft d ({} : Select) ks) (BuildError.NotCounted d) :=
    Draft.notCounted_draft Select.notCounted_fragment _ _
  simp only [seedTables, List.forall_mem_cons]
  exact ⟨notCounted_phase _ _, hinsert _ _, notCounted_count (hselect _),
    notCounted_count (hselect _), hinsert _ _, hinsert _ _, notCounted_execute (hselect _),
    notCounted_execute (hselect _), fun _ h ↦ absurd h List.not_mem_nil⟩

theorem notCounted_beforeBatches (d : Dialect) : ∀ t ∈ beforeBatches d, NotCounted d t := by
  simp only [beforeBatches, List.forall_mem_append, List.forall_mem_cons]
  exact ⟨⟨notCounted_createSchema d, notCounted_seedTables d⟩, notCounted_phase _ _,
    notCounted_execute (Draft.notCounted_draft_alterTable (Or.inl (Nat.le_refl 1))),
    fun _ h ↦ absurd h List.not_mem_nil⟩

/-! ## What was accepted before -/

/-- A column that was accepted has a type that the dialect knows. -/
theorem resolves_of_accepted {c : ColumnDefinition} (h : c.refusal? d = none) :
    ∃ s, d.resolveType c.dataType = .ok s := by
  rw [ColumnDefinition.refusal?, ColumnDefinition.validate_eq, fault?_discard] at h
  obtain ⟨f, hf⟩ := fault?_eq_none_iff.mp h
  obtain ⟨s, -, hs, -⟩ := ColumnDefinition.fragment_eq_ok_iff.mp hf
  exact ⟨s, hs⟩

/-- A column without constraints is accepted if the dialect knows its type. -/
theorem accepted_plainColumn {name : String} (hname : name ≠ "") {t : DataType}
    (h : ∃ s, d.resolveType t = .ok s) : (plainColumn name t).refusal? d = none := by
  obtain ⟨s, hs⟩ := h
  rw [ColumnDefinition.refusal?, ColumnDefinition.validate_eq, fault?_discard]
  exact fault?_eq_none_iff.mpr
    ⟨_, ColumnDefinition.fragment_eq_ok_iff.mpr ⟨s, [], hs, hname, .nil, rfl⟩⟩

/-- A statement that was executed had all its clauses accepted. -/
theorem accepted_of_mem {α κ : Type} [Statement α κ] [Refusable κ] [ClauseWise α]
    {ts : List Task} (hbuilt : Task.AllBuilt ts) {start : α} {ks : List κ}
    (hmem : run d start ks ∈ ts) : ∀ k ∈ ks, refusal? d k = none := by
  obtain ⟨q, hq⟩ := hbuilt _ hmem _ rfl
  exact Draft.accepted_of_draft hq

/-- The first statement with several changes makes only changes of a kind that was made before, to
columns of types that were used before. -/
theorem accepted_batch (hbuilt : Task.AllBuilt (beforeBatches d)) :
    ∀ op ∈ [AlterOperation.addColumn (plainColumn "very_extra" .bigint),
      .addColumn (plainColumn "extra_extra" .text)], refusal? d op = none := by
  have hcreated : run d { table := "galaxies" : CreateTable }
      [.column idColumn, .column (plainColumn "name" .text)] ∈ beforeBatches d := by
    simp [beforeBatches, createSchema]
  have hadded : run d { table := "planets" : AlterTable }
      [.addColumn (plainColumn "extra" .int)] ∈ beforeBatches d := by
    simp [beforeBatches]
  have hcolumns := accepted_of_mem hbuilt hcreated
  obtain ⟨hadds, -⟩ :=
    AlterKind.refusal?_eq_none_iff.mp (accepted_of_mem hbuilt hadded _ List.mem_cons_self)
  have hbigint : ∃ s, d.resolveType .bigint = .ok s :=
    resolves_of_accepted (c := idColumn) (hcolumns _ List.mem_cons_self)
  have htext : ∃ s, d.resolveType .text = .ok s :=
    resolves_of_accepted (c := plainColumn "name" .text)
      (hcolumns _ (List.mem_cons_of_mem _ List.mem_cons_self))
  refine List.forall_mem_cons.mpr ⟨?_, List.forall_mem_singleton.mpr ?_⟩
  · exact AlterKind.refusal?_eq_none_iff.mpr ⟨hadds, accepted_plainColumn (by decide) hbigint⟩
  · exact AlterKind.refusal?_eq_none_iff.mpr ⟨hadds, accepted_plainColumn (by decide) htext⟩

/-! ## The batches -/

variable {σ ρ ε : Type} [Connection σ ρ ε]

/-- Tasks whose statements do not fail for the number of their changes do not end so. -/
theorem performAll_ne_batch {ts : List Task} (h : ∀ t ∈ ts, NotCounted d t) (db : Database σ)
    {name : String} {n : Nat} (hanswer : ¬d.Answers (.batchAlterUnsupported name n)) :
    (Task.performAll db ts).1 ≠ .error (.build (.batchAlterUnsupported name n)) := by
  intro hperform
  obtain ⟨t, ht, hstatement⟩ := Task.exists_statement?_of_build hperform
  exact hanswer (h t ht _ hstatement _ rfl name n rfl)

/-- Where several changes are left out, or where the builder takes them, their number is no
fault. -/
theorem notCounted_batches (h : d.alterTable.allowsBatch → d.batchesAlter) :
    ∀ t ∈ batches d, NotCounted d t := by
  rw [batches]
  split
  · next hallows =>
    have halter (ops : List AlterOperation) :
        NotCounted d (run d { table := "planets" : AlterTable } ops) :=
      notCounted_execute (Draft.notCounted_draft_alterTable (Or.inr (h hallows)))
    simp only [alterInBatches, List.forall_mem_cons]
    exact ⟨halter _, halter _, fun _ h ↦ absurd h List.not_mem_nil⟩
  · exact List.forall_mem_singleton.mpr nofun

/-- Where the builder does not take several changes but the table allows them, the first statement
with several is refused. -/
theorem performAll_batches (hbuilt : Task.AllBuilt (beforeBatches d))
    (hallows : d.alterTable.allowsBatch) (hbatch : ¬d.batchesAlter) (db : Database σ) :
    Task.performAll db (batches d) = (.error (.build (.batchAlterUnsupported d.name 2)), db) := by
  rw [batches, if_pos hallows, alterInBatches, run,
    Draft.draft_alterTable_of_tooMany (accepted_batch hbuilt) (by decide) hbatch]
  rfl

/-- **Batches.** The workload ends with a statement that has too many changes exactly if everything
before it was done in a dialect whose table allows several changes while its builder does not. That
the dialect gives the same fault in the place of a literal is left aside. -/
theorem perform_batchAlterUnsupported_iff (db : Database σ) (name : String) (n : Nat)
    (hanswer : ¬db.dialect.Answers (.batchAlterUnsupported name n)) :
    (perform db).1 = .error (.build (.batchAlterUnsupported name n)) ↔
      (db.dialect.alterTable.allowsBatch ∧ ¬db.dialect.batchesAlter) ∧
        (Task.performAll db (beforeBatches db.dialect)).1 = .ok () ∧
          name = db.dialect.name ∧ n = 2 := by
  have hbefore := performAll_ne_batch (notCounted_beforeBatches db.dialect) db hanswer
  rw [perform, tasks_eq]
  rcases hperform : Task.performAll db (beforeBatches db.dialect) with ⟨result, db'⟩
  rw [hperform] at hbefore
  cases result with
  | error f =>
    rw [Task.performAll_append_of_error _ hperform]
    exact iff_of_false hbefore fun h ↦ nomatch h.2.1
  | ok u =>
    rw [Task.performAll_append_of_ok _ hperform]
    by_cases hagree : db.dialect.alterTable.allowsBatch → db.dialect.batchesAlter
    · have hbatches := performAll_ne_batch (notCounted_batches hagree) db' hanswer
      exact iff_of_false hbatches fun h ↦ h.1.2 (hagree h.1.1)
    · obtain ⟨hallows, hbatch⟩ := Classical.not_imp.mp hagree
      have hbuilt := Task.allBuilt_of_performAll (congrArg Prod.fst hperform)
      rw [performAll_batches hbuilt hallows hbatch]
      simp [hallows, hbatch, eq_comm]

/-- A dialect whose builder does not take the several changes that its table allows. -/
def undecided : Dialect :=
  { Dialect.postgresql with batchesAlter := false }

theorem perform_batchAlterUnsupported_iff_undecided :
    ¬undecided.Answers (.batchAlterUnsupported "postgresql" 2) ∧
      ((perform { dialect := undecided, connection := ({} : DryRun) }).1 =
          .error (.build (.batchAlterUnsupported "postgresql" 2)) ↔
        (undecided.alterTable.allowsBatch ∧ ¬undecided.batchesAlter) ∧
          (Task.performAll { dialect := undecided, connection := ({} : DryRun) }
            (beforeBatches undecided)).1 = .ok () ∧ "postgresql" = undecided.name ∧ 2 = 2) := by
  have hanswer : ¬undecided.Answers (.batchAlterUnsupported "postgresql" 2) := fun h ↦
    nomatch (Dialect.refusesNonFinite_of_usual rfl).eq_of_answers h
  exact ⟨hanswer, perform_batchAlterUnsupported_iff _ _ _ hanswer⟩

theorem perform_undecided :
    undecided.alterTable.allowsBatch ∧ undecided.batchesAlter = false ∧
      (perform { dialect := undecided, connection := ({} : DryRun) }).1 =
        .error (.build (.batchAlterUnsupported "postgresql" 2)) :=
  ⟨rfl, rfl, rfl⟩

end SqlBuilder.Planets
