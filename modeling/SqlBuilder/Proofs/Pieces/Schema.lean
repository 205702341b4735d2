import SqlBuilder.Proofs.Pieces.Expr
import SqlBuilder.Proofs.Pieces.Statement
import SqlBuilder.Schema.AlterTable
import SqlBuilder.Schema.CreateIndex
import SqlBuilder.Schema.CreateTable
import SqlBuilder.Schema.DropTable

/-!
# Statements about tables as fragments

A definition of a column is written with no regard to what stands before it and takes no
placeholder, so one trial on its own tells whether a dialect accepts it.
-/

namespace SqlBuilder

open Writer

variable {d : Dialect} {f : Fragment}

/-! ## Columns -/

/-- Keywords and an action, if there is one. -/
def ReferentialAction.fragment (keywords : String) : Option ReferentialAction → Fragment
  | some action => [.text keywords, .text action.keywords]
  | none => []

theorem ReferentialAction.realizes_write (keywords : String) (action : Option ReferentialAction) :
    Realizes d (write keywords action) (.ok (fragment keywords action)) := by
  cases action with
  | none => exact Realizes.nil
  | some action => exact (Realizes.text keywords).seq (Realizes.text action.keywords)

theorem ReferentialAction.binds_fragment (keywords : String) (action : Option ReferentialAction) :
    (fragment keywords action).binds = [] := by
  cases action with
  | none => rfl
  | some action => rfl

/-- A reference as it is written. -/
def ForeignKey.fragment (key : ForeignKey) : Except BuildError Fragment := do
  let table ← Fragment.ofName key.table
  let column ← Fragment.ofName key.column
  return table ++ .text " (" :: (column ++ .text ")"
    :: (ReferentialAction.fragment " ON DELETE " key.onDelete
      ++ ReferentialAction.fragment " ON UPDATE " key.onUpdate))

theorem ForeignKey.realizes_write (key : ForeignKey) : Realizes d (key.write d) key.fragment := by
  have hactions := (ReferentialAction.realizes_write (d := d) " ON DELETE " key.onDelete).seq
    (ReferentialAction.realizes_write " ON UPDATE " key.onUpdate)
  have hcolumn := (Realizes.name key.column).seq ((Realizes.text ")").seq hactions)
  refine ((Realizes.name key.table).seq ((Realizes.text " (").seq hcolumn)).congr ?_
  simp only [fragment, bind_assoc, pure_bind, ok_bind, List.singleton_append]

theorem ForeignKey.fragment_eq_ok_iff {key : ForeignKey} :
    key.fragment = .ok f ↔ key.table ≠ "" ∧ key.column ≠ "" ∧
      f = .name key.table :: .text " (" :: .name key.column :: .text ")"
        :: (ReferentialAction.fragment " ON DELETE " key.onDelete
          ++ ReferentialAction.fragment " ON UPDATE " key.onUpdate) := by
  simp only [fragment, bind_eq_ok_iff, Fragment.ofName_eq_ok_iff, pure_eq_ok_iff]
  constructor
  · rintro ⟨_, ⟨htable, rfl⟩, _, ⟨hcolumn, rfl⟩, rfl⟩
    exact ⟨htable, hcolumn, rfl⟩
  · rintro ⟨htable, hcolumn, rfl⟩
    exact ⟨_, ⟨htable, rfl⟩, _, ⟨hcolumn, rfl⟩, rfl⟩

theorem ForeignKey.binds_fragment {key : ForeignKey} (h : key.fragment = .ok f) :
    f.binds = [] := by
  obtain ⟨-, -, rfl⟩ := fragment_eq_ok_iff.mp h
  simp [ReferentialAction.binds_fragment]

/-- A constraint as it is written, with the blank in front of it. -/
def ColumnConstraint.fragment (d : Dialect) : ColumnConstraint → Except BuildError Fragment
  | .primaryKey => .ok [.text " PRIMARY KEY"]
  | .notNull => .ok [.text " NOT NULL"]
  | .unique => .ok [.text " UNIQUE"]
  | .default l => return .text " DEFAULT " :: (← l.fragment d .columnDefault)
  | .references key => return .text " REFERENCES " :: (← key.fragment)

theorem ColumnConstraint.realizes_write (k : ColumnConstraint) :
    Realizes d (k.write d) (k.fragment d) := by
  cases k with
  | primaryKey => exact Realizes.text _
  | notNull => exact Realizes.text _
  | unique => exact Realizes.text _
  | default l => exact (Realizes.text _).seq l.realizes_write
  | references key => exact (Realizes.text _).seq key.realizes_write

theorem ColumnConstraint.binds_fragment {k : ColumnConstraint} (h : k.fragment d = .ok f) :
    f.binds = [] := by
  cases k with
  | default l =>
    obtain ⟨g, hg, rfl⟩ := bind_pure_eq_ok_iff.mp h
    obtain ⟨-, -, rfl⟩ := Literal.fragment_eq_ok_iff.mp hg
    rfl
  | references key =>
    obtain ⟨g, hg, rfl⟩ := bind_pure_eq_ok_iff.mp h
    exact (Fragment.binds_text _ g).trans (key.binds_fragment hg)
  | _ =>
    obtain rfl := Except.ok.inj h
    rfl

namespace ColumnDefinition

/-- The definition as it is written. The type is resolved before anything else is looked at. -/
def fragment (d : Dialect) (c : ColumnDefinition) : Except BuildError Fragment := do
  let typeName ← d.resolveType c.dataType
  let name ← Fragment.ofName c.name
  let constraints ← c.constraints.mapM (ColumnConstraint.fragment d)
  return name ++ .text " " :: .text typeName :: constraints.flatten

theorem realizes_write (c : ColumnDefinition) : Realizes d (c.write d) (c.fragment d) := by
  refine Realizes.check _ fun typeName _ ↦ ?_
  have hconstraints := Realizes.forM fun k (_ : k ∈ c.constraints) ↦ k.realizes_write (d := d)
  have htype := (Realizes.text " ").seq ((Realizes.text typeName).seq hconstraints)
  refine ((Realizes.name c.name).seq htype).congr ?_
  simp only [bind_assoc, pure_bind, ok_bind, List.singleton_append]

theorem fragment_eq_ok_iff {c : ColumnDefinition} :
    c.fragment d = .ok f ↔ ∃ typeName constraints,
      d.resolveType c.dataType = .ok typeName ∧ c.name ≠ "" ∧
      List.Forall₂ (fun k f ↦ ColumnConstraint.fragment d k = .ok f) c.constraints constraints ∧
      f = .name c.name :: .text " " :: .text typeName :: constraints.flatten := by
  simp only [fragment, bind_eq_ok_iff, Fragment.ofName_eq_ok_iff, mapM_eq_ok_iff, pure_eq_ok_iff]
  constructor
  · rintro ⟨typeName, htype, _, ⟨hname, rfl⟩, constraints, hks, rfl⟩
    exact ⟨typeName, constraints, htype, hname, hks, rfl⟩
  · rintro ⟨typeName, constraints, htype, hname, hks, rfl⟩
    exact ⟨typeName, htype, _, ⟨hname, rfl⟩, constraints, hks, rfl⟩

/-- A definition takes no placeholder. -/
theorem binds_fragment {c : ColumnDefinition} (h : c.fragment d = .ok f) : f.binds = [] := by
  obtain ⟨typeName, constraints, -, -, hks, rfl⟩ := fragment_eq_ok_iff.mp h
  rw [Fragment.binds_name, Fragment.binds_text, Fragment.binds_text, Fragment.binds_flatten,
    List.flatMap_eq_nil_iff]
  exact forall_mem_of_forall₂ hks fun _ _ _ hk ↦ ColumnConstraint.binds_fragment hk

/-- One trial tells whether the definition can be written. -/
theorem validate_eq (c : ColumnDefinition) : c.validate d = discard (c.fragment d) := by
  rw [validate, c.realizes_write.query_eq]
  cases c.fragment d <;> rfl

end ColumnDefinition

/-! ## Creating a table -/

namespace CreateTable

/-- The statement as it is written. -/
def fragment (d : Dialect) (s : CreateTable) : Except BuildError Fragment := do
  if s.columns.isEmpty then throw (.noColumns .createTable)
  let table ← Fragment.ofName s.table
  let columns ← s.columns.mapM (·.fragment d)
  return .text "CREATE TABLE " :: (Fragment.optional s.ifNotExists "IF NOT EXISTS " ++ table
    ++ .text " (" :: (Fragment.commaList columns ++ [.text ")"]))

theorem fragment_eq_ok_iff {s : CreateTable} :
    s.fragment d = .ok f ↔ s.columns ≠ [] ∧ s.table ≠ "" ∧
      ∃ columns, List.Forall₂ (fun c f ↦ ColumnDefinition.fragment d c = .ok f) s.columns columns ∧
        f = .text "CREATE TABLE " :: (Fragment.optional s.ifNotExists "IF NOT EXISTS "
          ++ .name s.table :: .text " (" :: (Fragment.commaList columns ++ [.text ")"])) := by
  simp only [fragment, ite_throw_eq_ok_iff, throw_bind, bind_eq_ok_iff, Fragment.ofName_eq_ok_iff,
    mapM_eq_ok_iff, pure_eq_ok_iff, List.isEmpty_iff]
  constructor
  · rintro ⟨hcolumns, _, ⟨htable, rfl⟩, columns, hcs, rfl⟩
    exact ⟨hcolumns, htable, columns, hcs, by simp⟩
  · rintro ⟨hcolumns, htable, columns, hcs, rfl⟩
    exact ⟨hcolumns, _, ⟨htable, rfl⟩, columns, hcs, by simp⟩

theorem realizes_write (s : CreateTable) : Realizes d (s.write d) (s.fragment d) := by
  refine Realizes.guarded fun _ ↦ ?_
  have hcolumns := (Realizes.commaList fun c (_ : c ∈ s.columns) ↦ c.realizes_write (d := d)).seq
    (Realizes.text ")")
  have htable := (Realizes.name s.table).seq ((Realizes.text " (").seq hcolumns)
  have hhead := (Realizes.optional s.ifNotExists "IF NOT EXISTS ").seq htable
  refine ((Realizes.text "CREATE TABLE ").seq hhead).congr ?_
  simp only [bind_assoc, pure_bind, ok_bind, List.singleton_append, List.append_assoc]

instance : Fragmented CreateTable where
  fragment := fragment
  realizes _ := realizes_write

end CreateTable

/-! ## Altering a table -/

namespace AlterOperation

/-- The change as it is written behind the table. -/
def fragment (d : Dialect) : AlterOperation → Except BuildError Fragment
  | addColumn c => return .text "ADD COLUMN " :: (← c.fragment d)
  | dropColumn name => return .text "DROP COLUMN " :: (← Fragment.ofName name)
  | modifyColumn name dataType =>
    match d.alterTable.modifyColumn with
    | none => .error (.unsupportedAlter d.name .modifyColumn)
    | some form => do
      let typeName ← d.resolveType dataType
      let column ← Fragment.ofName name
      let keyword :=
        match form.typeKeyword with
        | some keyword => [.text " ", .text keyword]
        | none => []
      return .text form.clause :: .text " " :: (column ++ keyword ++ [.text " ", .text typeName])

theorem realizes_write (op : AlterOperation) : Realizes d (op.write d) (op.fragment d) := by
  cases op with
  | addColumn c => exact (Realizes.text _).seq c.realizes_write
  | dropColumn name => exact (Realizes.text _).seq (Realizes.name name)
  | modifyColumn name dataType =>
    rw [write, fragment]
    cases d.alterTable.modifyColumn with
    | none => exact Realizes.fault _
    | some form =>
      refine Realizes.check _ fun typeName _ ↦ ?_
      have htype := (Realizes.text (d := d) " ").seq (Realizes.text typeName)
      cases hkeyword : form.typeKeyword with
      | none =>
        have hname := (Realizes.text " ").seq ((Realizes.name name).seq htype)
        refine ((Realizes.text form.clause).seq hname).congr ?_
        simp only [bind_assoc, pure_bind, ok_bind, List.cons_append, List.nil_append,
          List.append_assoc]
      | some keyword =>
        have hbehind := (Realizes.text " ").seq ((Realizes.text keyword).seq htype)
        have hname := (Realizes.text " ").seq ((Realizes.name name).seq hbehind)
        refine ((Realizes.text form.clause).seq hname).congr ?_
        simp only [bind_assoc, pure_bind, ok_bind, List.cons_append, List.nil_append,
          List.append_assoc]

/-- A change takes no placeholder. -/
theorem binds_fragment {op : AlterOperation} (h : op.fragment d = .ok f) :
    f.binds = [] := by
  cases op with
  | addColumn c =>
    obtain ⟨g, hg, rfl⟩ := bind_pure_eq_ok_iff.mp h
    rw [Fragment.binds_text, ColumnDefinition.binds_fragment hg]
  | dropColumn name =>
    obtain ⟨g, hg, rfl⟩ := bind_pure_eq_ok_iff.mp h
    obtain ⟨-, rfl⟩ := Fragment.ofName_eq_ok_iff.mp hg
    rfl
  | modifyColumn name t =>
    cases hform : d.alterTable.modifyColumn with
    | none => simp [fragment, hform] at h
    | some form =>
      simp only [fragment, hform, bind_eq_ok_iff, Fragment.ofName_eq_ok_iff, pure_eq_ok_iff] at h
      obtain ⟨typeName, -, _, ⟨-, rfl⟩, rfl⟩ := h
      cases form.typeKeyword with
      | none => rfl
      | some keyword => rfl

end AlterOperation

namespace AlterTable

/-- One statement with the given changes to the table. -/
def statement (d : Dialect) (table : String) (ops : List AlterOperation) :
    Except BuildError Fragment := do
  let table ← Fragment.ofName table
  let changes ← ops.mapM (·.fragment d)
  return .text "ALTER TABLE " :: (table ++ .text " " :: Fragment.commaList changes)

theorem realizes_writeStatement (table : String) (ops : List AlterOperation) :
    Realizes d (writeStatement d table ops) (statement d table ops) := by
  have hchanges := Realizes.commaList fun op (_ : op ∈ ops) ↦ op.realizes_write (d := d)
  have htable := (Realizes.name table).seq ((Realizes.text " ").seq hchanges)
  refine ((Realizes.text "ALTER TABLE ").seq htable).congr ?_
  simp only [statement, bind_assoc, pure_bind, ok_bind, List.singleton_append]

/-- All changes in one statement. -/
def fragment (d : Dialect) (s : AlterTable) : Except BuildError Fragment := do
  s.ensureOperations
  if 1 < s.operations.length ∧ ¬ d.batchesAlter then
    throw (.batchAlterUnsupported d.name s.operations.length)
  statement d s.table s.operations

theorem realizes_write (s : AlterTable) : Realizes d (s.write d) (s.fragment d) := by
  refine Realizes.check _ fun _ _ ↦ Realizes.guarded fun _ ↦ ?_
  exact realizes_writeStatement s.table s.operations

/-- Each change in a statement of its own, as it is written. -/
theorem toQueries_eq (s : AlterTable) : s.toQueries d = (do
    s.ensureOperations
    let statements ← s.operations.mapM fun op ↦ statement d s.table [op]
    return statements.map (·.toQuery d)) := by
  have hone (op : AlterOperation) : (writeStatement d s.table [op]).query
      = (·.toQuery d) <$> statement d s.table [op] :=
    (realizes_writeStatement s.table [op]).query_eq
  simp only [toQueries, hone]
  rw [mapM_map_eq]
  rfl

instance : Fragmented AlterTable where
  fragment := fragment
  realizes _ := realizes_write

end AlterTable

/-! ## Creating an index -/

namespace CreateIndex

/-- The statement as it is written. A missing table is reported before missing columns. -/
def fragment (s : CreateIndex) : Except BuildError Fragment := do
  let some table := s.table | throw (.missingClause .createIndex .on)
  if s.columns.isEmpty then throw (.missingClause .createIndex .columnList)
  let name ← Fragment.ofName s.name
  let table ← Fragment.ofName table
  let columns ← Fragment.ofNames s.columns
  return .text "CREATE " :: (Fragment.optional s.unique "UNIQUE " ++ .text "INDEX "
    :: (Fragment.optional s.ifNotExists "IF NOT EXISTS " ++ name ++ .text " ON "
      :: (table ++ .text " (" :: (columns ++ [.text ")"]))))

theorem realizes_write (s : CreateIndex) : Realizes d (s.write d) s.fragment := by
  rw [write, fragment]
  cases s.table with
  | none => exact Realizes.fault _
  | some table =>
    refine Realizes.guarded fun _ ↦ ?_
    have hcolumns := (Realizes.names (d := d) s.columns).seq (Realizes.text ")")
    have htable := (Realizes.name table).seq ((Realizes.text " (").seq hcolumns)
    have hname := (Realizes.name s.name).seq ((Realizes.text " ON ").seq htable)
    have hindex := (Realizes.text "INDEX ").seq
      ((Realizes.optional s.ifNotExists "IF NOT EXISTS ").seq hname)
    have hhead := (Realizes.optional s.unique "UNIQUE ").seq hindex
    refine ((Realizes.text "CREATE ").seq hhead).congr ?_
    simp only [bind_assoc, pure_bind, ok_bind, List.singleton_append, List.append_assoc]

instance : Fragmented CreateIndex where
  fragment _ := fragment
  realizes _ := realizes_write

end CreateIndex

/-! ## Dropping a table -/

namespace DropTable

/-- The statement as it is written. -/
def fragment (s : DropTable) : Except BuildError Fragment := do
  let table ← Fragment.ofName s.table
  return .text "DROP TABLE " :: (Fragment.optional s.ifExists "IF EXISTS " ++ table
    ++ Fragment.optional s.cascade " CASCADE")

theorem realizes_write (s : DropTable) : Realizes d (s.write d) s.fragment := by
  have htable := (Realizes.name (d := d) s.table).seq (Realizes.optional s.cascade " CASCADE")
  have hhead := (Realizes.optional s.ifExists "IF EXISTS ").seq htable
  refine ((Realizes.text "DROP TABLE ").seq hhead).congr ?_
  simp only [fragment, bind_assoc, pure_bind, ok_bind, List.singleton_append, List.append_assoc]

instance : Fragmented DropTable where
  fragment _ := fragment
  realizes _ := realizes_write

end DropTable

end SqlBuilder
