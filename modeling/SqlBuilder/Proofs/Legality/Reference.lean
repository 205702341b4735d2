import SqlBuilder.Proofs.Legality.Insert

/-!
# Columns among the values of an insertion

A value to insert is no column, and a column that is given for one is reported by its name. But the
arguments of a call form a place of their own, and there a column is legal whatever the call stands
in. So what keeps columns out of the values finds those that are a value themselves and none of
those that a call refers to. If every column is a value itself, that is all of them.
-/

namespace SqlBuilder

variable {objection : Literal → Option BuildError}

/-- The column has a name, and so has its table if it is qualified. -/
def ColumnRef.IsNamed (c : ColumnRef) : Prop :=
  (∀ table ∈ c.table, table ≠ "") ∧ c.name ≠ ""

/-! ## Columns in expressions -/

namespace Expr

mutual

/-- The columns that an expression refers to at every depth, in the order of its text. -/
def references : Expr → List ColumnRef
  | .column c => [c]
  | .literal _ => []
  | .bind _ => []
  | .call _ arguments => referencesAll arguments

/-- The columns that expressions refer to, in the order of their text. -/
def referencesAll : List Expr → List ColumnRef
  | [] => []
  | e :: es => e.references ++ referencesAll es

end

/-- The column that the expression is, if it is one. -/
def column? : Expr → Option ColumnRef
  | .column c => some c
  | _ => none

/-- The columns that the arguments of the expression refer to, if it is a call. -/
def argumentReferences : Expr → List ColumnRef
  | .call _ arguments => referencesAll arguments
  | _ => []

mutual

/-- The expression with a bound value in the place of every column. -/
def withoutColumns : Expr → Expr
  | .column _ => .bind .null
  | .literal l => .literal l
  | .bind v => .bind v
  | .call function arguments => .call function (withoutColumnsAll arguments)

/-- The expressions with a bound value in the place of every column. -/
def withoutColumnsAll : List Expr → List Expr
  | [] => []
  | e :: es => e.withoutColumns :: withoutColumnsAll es

end

theorem referencesAll_eq_flatMap (es : List Expr) : referencesAll es = es.flatMap references := by
  induction es with
  | nil => rfl
  | cons e es ih => rw [referencesAll, ih, List.flatMap_cons]

theorem withoutColumnsAll_eq_map (es : List Expr) :
    withoutColumnsAll es = es.map withoutColumns := by
  induction es with
  | nil => rfl
  | cons e es ih => rw [withoutColumnsAll, ih, List.map_cons]

/-- A column is referred to by itself or by the arguments of a call. -/
theorem references_eq (e : Expr) : e.references = e.column?.toList ++ e.argumentReferences := by
  cases e <;> rfl

/-- Where columns are legal, an expression that is legal without them has no faults but theirs. -/
theorem faults_of_withoutColumns {e : Expr} {place : Place} (hplace : place ≠ .insertValue)
    (h : e.withoutColumns.faults objection place = []) :
    e.faults objection place = e.references.flatMap ColumnRef.faults := by
  induction e using Expr.induction generalizing place with
  | column c => rw [faults, if_neg hplace, references, List.flatMap_singleton]
  | literal l => exact h
  | bind v => rfl
  | call function arguments ih =>
    rw [withoutColumns, withoutColumnsAll_eq_map, faults, faultsAll_eq_flatMap,
      List.append_eq_nil_iff, List.flatMap_map, List.flatMap_eq_nil_iff] at h
    rw [faults, h.1, List.nil_append, faultsAll_eq_flatMap, references, referencesAll_eq_flatMap,
      List.flatMap_assoc]
    exact List.flatMap_congr fun a ha ↦ ih a ha (by decide) (h.2 a ha)

/-- A value that is legal without columns is at fault for being one, or for the columns among its
arguments. -/
theorem faults_insertValue {e : Expr} (h : e.withoutColumns.faults objection .insertValue = []) :
    e.faults objection .insertValue = (e.column?.toList.map fun c ↦ .columnInValues c.name)
      ++ e.argumentReferences.flatMap ColumnRef.faults := by
  cases e with
  | column c => rfl
  | literal l => exact h
  | bind v => rfl
  | call function arguments =>
    -- The place of a call does not matter to its faults.
    exact @faults_of_withoutColumns objection (.call function arguments) .operand (by decide) h

/-- What is legal as a value is no column. -/
theorem column?_of_faults_eq_nil {e : Expr} (h : e.faults objection .insertValue = []) :
    e.column? = none := by
  cases e with
  | column c => exact nomatch h
  | literal l => rfl
  | bind v => rfl
  | call function arguments => rfl

end Expr

/-! ## Columns in insertions -/

namespace Insert

/-- The columns that the values refer to at every depth, row by row. -/
def references (s : Insert) : List ColumnRef :=
  s.expressions.flatMap Expr.references

/-- The columns that are values themselves, row by row. -/
def valueReferences (s : Insert) : List ColumnRef :=
  s.expressions.filterMap Expr.column?

/-- The columns that the calls among the values refer to, row by row. -/
def argumentReferences (s : Insert) : List ColumnRef :=
  s.expressions.flatMap Expr.argumentReferences

/-- The insertion with a bound value in the place of every column among its values. -/
def withoutColumns (s : Insert) : Insert :=
  { s with rows := s.rows.map (List.map Expr.withoutColumns) }

variable {s : Insert}

theorem expressions_withoutColumns (s : Insert) :
    s.withoutColumns.expressions = s.expressions.map Expr.withoutColumns :=
  List.map_flatten.symm

theorem flatMap_column? (es : List Expr) {β : Type} (g : ColumnRef → β) :
    (es.flatMap fun e ↦ e.column?.toList.map g) = (es.filterMap Expr.column?).map g := by
  induction es with
  | nil => rfl
  | cons e es ih =>
    rw [List.flatMap_cons, ih, List.filterMap_cons]
    cases e.column? <;> rfl

/-- If no call refers to a column, every column is a value itself. -/
theorem references_eq_valueReferences (h : s.argumentReferences = []) :
    s.references = s.valueReferences := by
  have hflat := flatMap_column? s.expressions id
  rw [List.map_id] at hflat
  rw [references, valueReferences, ← hflat]
  refine List.flatMap_congr fun e he ↦ ?_
  rw [Expr.references_eq, List.flatMap_eq_nil_iff.mp h e he, List.append_nil, List.map_id]

theorem references_eq_nil_iff :
    s.references = [] ↔ s.valueReferences = [] ∧ s.argumentReferences = [] := by
  simp only [references, valueReferences, argumentReferences, List.flatMap_eq_nil_iff,
    List.filterMap_eq_nil_iff, Expr.references_eq, List.append_eq_nil_iff,
    Option.toList_eq_nil_iff, forall_and]

theorem isRectangular_of_faults_eq_nil (h : s.faults objection = []) : s.IsRectangular := by
  simp only [faults, List.append_eq_nil_iff, faultIf_eq_nil_iff, raggedFaults, List.map_eq_nil_iff,
    Option.toList_eq_nil_iff, raggedRow?_eq_none_iff] at h
  obtain ⟨hcolumns, hrows, hlength, -⟩ := h
  exact ⟨hcolumns, hrows, hlength⟩

/-- An insertion that is legal without its columns is at fault only for columns. -/
theorem faults_of_withoutColumns (h : s.withoutColumns.faults objection = []) :
    s.faults objection = s.expressions.flatMap fun e ↦
      (e.column?.toList.map fun c ↦ .columnInValues c.name)
        ++ e.argumentReferences.flatMap ColumnRef.faults := by
  have hwithout := isRectangular_of_faults_eq_nil h
  have hs : s.IsRectangular := by
    refine ⟨hwithout.columns_ne_nil, ?_, fun row hrow ↦ ?_⟩
    · simpa [withoutColumns] using hwithout.rows_ne_nil
    · have hlength := hwithout.length_eq _ (List.mem_map_of_mem hrow)
      rwa [List.length_map] at hlength
  rw [hwithout.faults_eq, List.append_eq_nil_iff] at h
  obtain ⟨hnames, hvalues⟩ := h
  change s.withoutColumns.expressions.flatMap _ = [] at hvalues
  change (s.table :: s.columns).flatMap nameFaults = [] at hnames
  rw [expressions_withoutColumns, List.flatMap_map, List.flatMap_eq_nil_iff] at hvalues
  rw [hs.faults_eq, hnames]
  exact List.flatMap_congr fun e he ↦ Expr.faults_insertValue (hvalues e he)

/-- If the columns in calls have names, only those that are values themselves are at fault. -/
theorem faults_of_named (h : s.withoutColumns.faults objection = [])
    (hnamed : ∀ c ∈ s.argumentReferences, c.IsNamed) :
    s.faults objection = s.valueReferences.map fun c ↦ .columnInValues c.name := by
  rw [faults_of_withoutColumns h, valueReferences, ← flatMap_column?]
  refine List.flatMap_congr fun e he ↦ ?_
  have hcalls : e.argumentReferences.flatMap ColumnRef.faults = [] := by
    refine List.flatMap_eq_nil_iff.mpr fun c hc ↦ ColumnRef.faults_eq_nil_iff.mpr ?_
    exact hnamed c (List.mem_flatMap.mpr ⟨e, he, hc⟩)
  rw [hcalls, List.append_nil]

/-- No value of an insertion without faults is a column. -/
theorem valueReferences_of_faults_eq_nil (h : s.faults objection = []) :
    s.valueReferences = [] := by
  rw [(isRectangular_of_faults_eq_nil h).faults_eq, List.append_eq_nil_iff] at h
  have hvalues := List.flatMap_eq_nil_iff.mp h.2
  exact List.filterMap_eq_nil_iff.mpr fun e he ↦ Expr.column?_of_faults_eq_nil (hvalues e he)

/-! ## Drafts -/

variable {σ ρ ε : Type} [Connection σ ρ ε] {db : Database σ}

/-- **Columns among values.** What an insertion renders to has no column for a value, so it refers
to a column only if a call among its values does. As long as nothing was rendered and nothing else
is wrong, this is exact: if no call refers to a column, then the first column is reported by its
name, and columns that only calls refer to are written like any other part of a value. -/
theorem columns_of_after {table : String} {cs : List (Call Clause Empty)} {b : Draft Insert}
    (h : ({ content := { table } } : Draft Insert).after db cs = some b) :
    (∀ q, b.toQuery db.dialect = .ok q ∨ (b.renderQuery db.dialect).1 = .ok q →
      b.content.valueReferences = [] ∧
        (b.content.references = [] ↔ b.content.argumentReferences = [])) ∧
    (b.stage = .building →
      (∃ q, Statement.toQuery db.dialect b.content.withoutColumns = .ok q) →
        (b.content.argumentReferences = [] → ∀ c back, b.content.references = c :: back →
          b.toQuery db.dialect = .error (.columnInValues c.name)) ∧
        ((∀ c ∈ b.content.argumentReferences, c.IsNamed) →
          ((∃ q, b.toQuery db.dialect = .ok q) ↔ b.content.valueReferences = []))) := by
  constructor
  · intro q hq
    -- A render gives what a preview does.
    obtain ⟨-, -, hquery⟩ := Draft.preview_eq_ok_iff.mp (or_self_iff.mp hq)
    have hfaults := b.content.reportsFirst_toQuery.exists_eq_ok_iff.mp ⟨q, hquery⟩
    have hvalues := valueReferences_of_faults_eq_nil hfaults
    exact ⟨hvalues, by rw [references_eq_nil_iff, and_iff_right hvalues]⟩
  · intro hb hother
    have haccept (k : Clause) : Refusable.refusal? db.dialect k = none := rfl
    have hfirst : ReportsFirst (b.toQuery db.dialect)
        (b.content.faults db.dialect.objection?) := by
      rw [Draft.toQuery_of_building haccept h hb]
      exact b.content.reportsFirst_toQuery
    have hwithout := b.content.withoutColumns.reportsFirst_toQuery.exists_eq_ok_iff.mp hother
    constructor
    · intro hcalls c back hreferences
      rw [references_eq_valueReferences hcalls] at hreferences
      rw [hfirst.eq_error_iff, faults_of_named hwithout (by simp [hcalls]), hreferences]
      rfl
    · intro hnamed
      rw [hfirst.exists_eq_ok_iff, faults_of_named hwithout hnamed, List.map_eq_nil_iff]

/-- A call without columns and a column in the second row. -/
def earthCalls : List (Call Clause Empty) :=
  [.clause (.columns ["id", "name"]),
    .clause (.values [.literal .default, .call "lower" [.bind (.text "Mars")]]), .preview,
    .clause (.values [.literal .default, .column { table := some "planets", name := "Earth" }])]

/-- The draft of the clauses in `earthCalls`. -/
def earthDraft : Draft Insert where
  content :=
    { table := "planets"
      columns := ["id", "name"]
      rows := [[.literal .default, .call "lower" [.bind (.text "Mars")]],
        [.literal .default, .column { table := some "planets", name := "Earth" }]] }

theorem columns_of_after_earth :
    ({ content := { table := "planets" } } : Draft Insert).after
        { dialect := .mysql, connection := ({} : DryRun) } earthCalls = some earthDraft ∧
      earthDraft.stage = .building ∧ earthDraft.content.argumentReferences = [] ∧
      earthDraft.content.references = [{ table := some "planets", name := "Earth" }] ∧
      (∃ q, Statement.toQuery .mysql earthDraft.content.withoutColumns = .ok q) ∧
      earthDraft.toQuery .mysql = .error (.columnInValues "Earth") := by
  have hafter : ({ content := { table := "planets" } } : Draft Insert).after
      { dialect := .mysql, connection := ({} : DryRun) } earthCalls = some earthDraft := by
    rfl
  have hother : Statement.toQuery .mysql earthDraft.content.withoutColumns = .ok
      ⟨"INSERT INTO `planets` (`id`, `name`) VALUES (DEFAULT, lower(?)), (DEFAULT, ?)",
        [.text "Mars", .null]⟩ := by
    decide +kernel
  obtain ⟨-, hbuilding⟩ := columns_of_after hafter
  obtain ⟨hreported, -⟩ := hbuilding rfl ⟨_, hother⟩
  exact ⟨hafter, rfl, rfl, rfl, ⟨_, hother⟩, hreported rfl _ [] rfl⟩

/-- A call on a column for the only value. -/
def lowerClauses : List Clause :=
  [.columns ["a"], .values [.call "lower" [.column { name := "name" }]]]

/-- The draft of the clauses in `lowerClauses`. -/
def lowerDraft : Draft Insert where
  content :=
    { table := "t"
      columns := ["a"]
      rows := [[.call "lower" [.column { name := "name" }]]] }

/-- A column that only a call refers to is written among the values. -/
theorem written_with_references_lower :
    ({ content := { table := "t" } } : Draft Insert).addAll .sqlite lowerClauses = lowerDraft ∧
      lowerDraft.content.references = [{ name := "name" }] ∧
      (∃ q, Statement.toQuery .sqlite lowerDraft.content.withoutColumns = .ok q) ∧
      lowerDraft.toQuery .sqlite
        = .ok ⟨"INSERT INTO \"t\" (\"a\") VALUES (lower(\"name\"))", []⟩ := by
  have hother : Statement.toQuery .sqlite lowerDraft.content.withoutColumns
      = .ok ⟨"INSERT INTO \"t\" (\"a\") VALUES (lower(?))", [.null]⟩ := by
    decide +kernel
  exact ⟨rfl, rfl, ⟨_, hother⟩, by decide +kernel⟩

end Insert

end SqlBuilder
