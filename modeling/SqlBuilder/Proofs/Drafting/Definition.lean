import SqlBuilder.Proofs.Drafting.Batch

/-!
# Column definitions in statements

A column definition is tried out alone before a draft takes it, and written later behind whatever
its statement begins with. It holds no bound value, so nothing in it depends on what was written
before: the trial tells whether it can be written at all, and it reads the same among the columns of
a new table and behind the keywords that add it to an old one.
-/

namespace SqlBuilder

variable {d : Dialect}

/-! ## One definition -/

namespace ColumnDefinition

/-- The definition can be written behind everything, and always as this text without a value. -/
def Reads (d : Dialect) (c : ColumnDefinition) (text : String) : Prop :=
  ∀ q : Query, (c.write d).behind q = (.ok (), ⟨q.sql ++ text, q.binds⟩)

/-- Where the definition stands decides neither whether it can be written nor how. -/
structure ReadsAlike (d : Dialect) (c : ColumnDefinition) : Prop where
  /-- Behind everything the writer ends as the trial does: it succeeds if the definition is
  accepted, and otherwise fails for the same reason. -/
  ends_eq : ∀ q, ((c.write d).behind q).1 = c.validate d
  /-- An accepted definition appends the same text everywhere, and no value. -/
  exists_reads : c.validate d = .ok () → ∃ text, c.Reads d text
  /-- Added to a table, the definition appends the same text behind two keywords. -/
  reads_added : ∀ text, c.Reads d text → ∀ q, ((AlterOperation.addColumn c).write d).behind q
    = (.ok (), ⟨q.sql ++ "ADD COLUMN " ++ text, q.binds⟩)

variable {c : ColumnDefinition} {f : Fragment}

/-- The text of a definition is what it is written as alone. -/
theorem reads_iff {text : String} :
    c.Reads d text ↔ ∃ f, c.fragment d = .ok f ∧ text = (f.toQuery d).sql := by
  constructor
  · intro h
    have halone := h ⟨"", []⟩
    cases hf : c.fragment d with
    | ok f =>
      rw [c.realizes_write.of_ok f hf,
        Fragment.pushAll_of_binds_eq_nil (binds_fragment hf)] at halone
      refine ⟨f, rfl, ?_⟩
      simpa using (congrArg (·.2.sql) halone).symm
    | error e =>
      obtain ⟨g, hg⟩ := c.realizes_write.of_error e hf ⟨"", []⟩
      rw [hg] at halone
      exact nomatch congrArg Prod.fst halone
  · rintro ⟨f, hf, rfl⟩ q
    rw [c.realizes_write.of_ok f hf, Fragment.pushAll_of_binds_eq_nil (binds_fragment hf)]

theorem readsAlike (d : Dialect) (c : ColumnDefinition) : c.ReadsAlike d where
  ends_eq q := by rw [c.realizes_write.ends_eq, validate_eq]
  exists_reads h := by
    rw [validate_eq, discard_eq_ok_iff] at h
    obtain ⟨f, hf⟩ := h
    exact ⟨_, reads_iff.mpr ⟨f, hf, rfl⟩⟩
  reads_added text h q := by
    have hkeywords : (Writer.text "ADD COLUMN ").behind q
        = (.ok (), { q with sql := q.sql ++ "ADD COLUMN " }) := by
      rfl
    rw [AlterOperation.write, Writer.behind_bind_of_ok hkeywords, h]

/-- The texts of definitions are those of what they are written as. -/
theorem exists_fragments {cs : List ColumnDefinition} {texts : List String}
    (h : List.Forall₂ (fun c text ↦ Reads d c text) cs texts) :
    ∃ fs, List.Forall₂ (fun c f ↦ fragment d c = .ok f) cs fs ∧
      texts = fs.map fun f ↦ (f.toQuery d).sql := by
  induction h with
  | nil => exact ⟨[], .nil, rfl⟩
  | cons hc _ ih =>
    obtain ⟨f, hf, rfl⟩ := reads_iff.mp hc
    obtain ⟨fs, hfs, rfl⟩ := ih
    exact ⟨f :: fs, .cons hf hfs, rfl⟩

/-- Accepted definitions have texts. -/
theorem exists_texts {cs : List ColumnDefinition} (h : ∀ c ∈ cs, c.validate d = .ok ()) :
    ∃ texts, List.Forall₂ (fun c text ↦ Reads d c text) cs texts := by
  induction cs with
  | nil => exact ⟨[], .nil⟩
  | cons c cs ih =>
    obtain ⟨hc, hcs⟩ := List.forall_mem_cons.mp h
    obtain ⟨text, htext⟩ := (readsAlike d c).exists_reads hc
    obtain ⟨texts, htexts⟩ := ih hcs
    exact ⟨text :: texts, .cons htext htexts⟩

end ColumnDefinition

/-! ## New tables -/

namespace CreateTable

/-- The columns that clauses define, in their order. -/
def columnsOf (ks : List Clause) : List ColumnDefinition :=
  ks.filterMap fun
    | .column c => some c
    | .ifNotExists => none

/-- Some clause asks that a table that exists is no fault. -/
def asksIfNotExists (ks : List Clause) : Bool :=
  ks.any fun
    | .ifNotExists => true
    | .column _ => false

theorem foldl_extended (s : CreateTable) (ks : List Clause) : ks.foldl ClauseWise.extended s
    = { s with
        ifNotExists := s.ifNotExists || asksIfNotExists ks
        columns := s.columns ++ columnsOf ks } := by
  induction ks generalizing s with
  | nil => simp [columnsOf, asksIfNotExists]
  | cons k ks ih =>
    rw [List.foldl_cons, ih]
    cases k <;> simp [ClauseWise.extended, columnsOf, asksIfNotExists]

/-- A column whose clause is not refused is accepted by itself. -/
theorem validate_of_accepted {ks : List Clause} (h : ∀ k ∈ ks, refusal? d k = none) :
    ∀ c ∈ columnsOf ks, c.validate d = .ok () := by
  intro c hc
  obtain ⟨k, hk, hkc⟩ := List.mem_filterMap.mp hc
  cases k with
  | ifNotExists => exact nomatch hkc
  | column c' =>
    obtain rfl := Option.some.inj hkc
    obtain ⟨_, hvalid⟩ := fault?_eq_none_iff.mp (h _ hk)
    exact hvalid

/-- What stands in front of the columns of a new table. -/
def opening (d : Dialect) (asked : Bool) (table : String) : String :=
  "CREATE TABLE " ++ (if asked then "IF NOT EXISTS " else "") ++ d.quoteIdentifier table ++ " ("

/-- What is written of a table with its columns. -/
def withColumns (s : CreateTable) (fs : List Fragment) : Fragment :=
  .text "CREATE TABLE " :: (Fragment.optional s.ifNotExists "IF NOT EXISTS "
    ++ .name s.table :: .text " (" :: (Fragment.commaList fs ++ [.text ")"]))

theorem toQuery_withColumns (d : Dialect) (s : CreateTable) {fs : List Fragment}
    (h : ∀ f ∈ fs, f.binds = []) :
    (s.withColumns fs).toQuery d = ⟨opening d s.ifNotExists s.table
      ++ ", ".intercalate (fs.map fun f ↦ (f.toQuery d).sql) ++ ")", []⟩ := by
  have hasked : (Fragment.optional s.ifNotExists "IF NOT EXISTS ").binds = [] :=
    Fragment.binds_optional _ _
  have hlist : (Fragment.commaList fs).binds = [] := Fragment.binds_commaList_eq_nil h
  have hbinds : (s.withColumns fs).binds = [] := by simp [withColumns, hasked, hlist]
  have hclose : (Fragment.toQuery d [.text ")"]).sql = ")" := by
    rw [Fragment.sql_text]
    exact String.append_empty
  rw [Fragment.toQuery_of_binds_eq_nil d hbinds, withColumns, Fragment.sql_text,
    Fragment.sql_append hasked, Fragment.sql_optional, Fragment.sql_name, Fragment.sql_text,
    Fragment.sql_append hlist, Fragment.sql_commaList h, hclose, opening]
  simp only [String.append_assoc]

/-- The columns stand behind the table, as each reads alone. -/
theorem toQuery_eq {s : CreateTable} {texts : List String} (hne : s.columns ≠ [])
    (htexts : List.Forall₂ (fun c text ↦ c.Reads d text) s.columns texts) :
    Statement.toQuery d s = if s.table = "" then .error .emptyIdentifier
      else .ok ⟨opening d s.ifNotExists s.table ++ ", ".intercalate texts ++ ")", []⟩ := by
  obtain ⟨fs, hfs, rfl⟩ := ColumnDefinition.exists_fragments htexts
  have hbinds : ∀ f ∈ fs, f.binds = [] :=
    forall_mem_of_forall₂ hfs fun _ _ _ hf ↦ ColumnDefinition.binds_fragment hf
  by_cases htable : s.table = ""
  · have hfault : s.fragment d = .error .emptyIdentifier := by
      rw [fragment, List.isEmpty_eq_false_iff.mpr hne, Fragment.ofName, if_pos htable]
      rfl
    rw [if_pos htable]
    exact Statement.toQuery_of_fragment (a := s) hfault
  · have hwritten : s.fragment d = .ok (s.withColumns fs) :=
      fragment_eq_ok_iff.mpr ⟨hne, htable, fs, hfs, rfl⟩
    rw [if_neg htable, ← toQuery_withColumns d s hbinds]
    exact Statement.toQuery_of_fragment (a := s) hwritten

/-- What a draft of a new table gives that has all clauses it was given. -/
structure ListsColumns (d : Dialect) (table : String) (ks : List Clause) (b : Draft CreateTable) :
    Prop where
  /-- The columns are those of the clauses. -/
  columns_eq : b.content.columns = columnsOf ks
  /-- Only the name of the table can be at fault, and every column stands in the query as it reads
  everywhere. -/
  toQuery_eq : columnsOf ks ≠ [] →
    ∃ texts, List.Forall₂ (fun c text ↦ c.Reads d text) (columnsOf ks) texts ∧
      b.toQuery d = if table = "" then .error .emptyIdentifier
        else .ok ⟨opening d (asksIfNotExists ks) table ++ ", ".intercalate texts ++ ")", []⟩

theorem listsColumns_of_after {σ ρ ε : Type} [Connection σ ρ ε] {db : Database σ} {table : String}
    {cs : List (Call Clause Empty)} {b : Draft CreateTable}
    (h : ({ content := { table } } : Draft CreateTable).after db cs = some b)
    (hb : b.stage = .building) (hrefusal : b.refusal = none) :
    ListsColumns db.dialect table (clausesOf cs) b := by
  have hall := Draft.eq_addAll_of_building h hb
  have haccept : ∀ k ∈ clausesOf cs, refusal? db.dialect k = none :=
    Draft.refusal_addAll_eq_none_iff.mp (hall ▸ hrefusal)
  have hcontent : b.content =
      { table
        ifNotExists := asksIfNotExists (clausesOf cs)
        columns := columnsOf (clausesOf cs) } := by
    rw [hall, Draft.content_addAll rfl, Draft.acceptedClauses_eq_self haccept, foldl_extended]
    rfl
  refine ⟨by rw [hcontent], fun hne ↦ ?_⟩
  obtain ⟨texts, htexts⟩ := ColumnDefinition.exists_texts (validate_of_accepted haccept)
  refine ⟨texts, htexts, ?_⟩
  rw [Draft.toQuery, Draft.preview_of_accepted hb hrefusal, hcontent]
  exact toQuery_eq hne htexts

end CreateTable

/-! ## Tables that are altered -/

namespace AlterTable

/-- If the change adds a column, its text has the definition as it reads everywhere. -/
def AddsAs (d : Dialect) (op : AlterOperation) (text : String) : Prop :=
  ∀ c, op = .addColumn c → ∃ t, c.Reads d t ∧ text = "ADD COLUMN " ++ t

theorem addsAs_of_reads {ops : List AlterOperation} {texts : List String} (h : Reads d ops texts) :
    List.Forall₂ (AddsAs d) ops texts := by
  refine h.imp ?_
  rintro _ _ ⟨f, hf, rfl⟩ c rfl
  obtain ⟨g, hg, rfl⟩ := bind_pure_eq_ok_iff.mp hf
  exact ⟨_, ColumnDefinition.reads_iff.mpr ⟨g, hg, rfl⟩, Fragment.sql_text _ _⟩

/-- New columns stand in both forms of an alteration as they read everywhere. -/
structure AddsColumns (d : Dialect) (b : Draft AlterTable) : Prop where
  /-- The query of all changes. -/
  whole : ∀ q, b.toQuery d = .ok q →
    ∃ texts, List.Forall₂ (AddsAs d) b.content.operations texts ∧
      q = wholeQuery d b.content.table texts
  /-- The queries of single changes. -/
  each : ∀ qs, b.preview (toQueries d) = .ok qs →
    ∃ texts, List.Forall₂ (AddsAs d) b.content.operations texts ∧
      qs = eachQuery d b.content.table texts

theorem addsColumns (d : Dialect) (b : Draft AlterTable) : AddsColumns d b where
  whole q h := by
    obtain ⟨-, -, hq⟩ := Draft.preview_eq_ok_iff.mp h
    have hforms := forms d b.content
    rw [hq] at hforms
    obtain ⟨qs, hqs⟩ := (hforms.whole_iff.mp ⟨q, rfl⟩).1
    rw [hqs] at hforms
    obtain ⟨texts, htexts, -, hwhole⟩ := hforms.texts
    exact ⟨texts, addsAs_of_reads htexts, hwhole q rfl⟩
  each qs h := by
    obtain ⟨-, -, hqs⟩ := Draft.preview_eq_ok_iff.mp h
    have hforms := forms d b.content
    rw [hqs] at hforms
    obtain ⟨texts, htexts, heach, -⟩ := hforms.texts
    exact ⟨texts, addsAs_of_reads htexts, heach⟩

end AlterTable

/-! ## Everywhere -/

/-- **Column definitions.** In every dialect a definition that is accepted reads the same wherever
it is written: behind any text, among the columns of a new table, and added to an old one. -/
theorem ColumnDefinition.read_alike {σ ρ ε : Type} [Connection σ ρ ε] (db : Database σ) :
    (∀ c, ReadsAlike db.dialect c) ∧
    (∀ table cs b, ({ content := { table } } : Draft CreateTable).after db cs = some b →
      b.stage = .building → b.refusal = none →
      CreateTable.ListsColumns db.dialect table (clausesOf cs) b) ∧
    ∀ b, AlterTable.AddsColumns db.dialect b :=
  ⟨readsAlike db.dialect, fun _ _ _ ↦ CreateTable.listsColumns_of_after,
    AlterTable.addsColumns db.dialect⟩

/-- A column whose text takes a literal and a reference. -/
def ownerColumn : ColumnDefinition where
  name := "owner"
  dataType := .varchar 8
  constraints :=
    [.notNull, .default (.string "it's"),
      .references { table := "people", column := "name", onDelete := some .cascade }]

/-- A new table is asked for with two columns, and looked at in between. -/
def definesTwo : List (Call CreateTable.Clause Empty) :=
  [.clause (.column { name := "id", dataType := .int, constraints := [.primaryKey] }), .preview,
    .clause .ifNotExists, .clause (.column ownerColumn)]

/-- The draft of the table that `definesTwo` asks for. -/
def draftOfTable : Draft CreateTable where
  content :=
    { table := "t"
      ifNotExists := true
      columns :=
        [{ name := "id", dataType := .int, constraints := [.primaryKey] }, ownerColumn] }

theorem ColumnDefinition.read_alike_owner :
    ({ content := { table := "t" } } : Draft CreateTable).after
        { dialect := .sqlite, connection := ({} : DryRun) } definesTwo = some draftOfTable ∧
      draftOfTable.stage = .building ∧ draftOfTable.refusal = none ∧
      CreateTable.ListsColumns .sqlite "t" (clausesOf definesTwo) draftOfTable ∧
      ownerColumn.validate .sqlite = .ok () ∧ ownerColumn.ReadsAlike .sqlite ∧
      draftOfTable.toQuery .sqlite = .ok
        ⟨"CREATE TABLE IF NOT EXISTS \"t\" (\"id\" INTEGER PRIMARY KEY, \"owner\" TEXT NOT NULL"
          ++ " DEFAULT 'it''s' REFERENCES \"people\" (\"name\") ON DELETE CASCADE)", []⟩ := by
  have hafter : ({ content := { table := "t" } } : Draft CreateTable).after
      { dialect := .sqlite, connection := ({} : DryRun) } definesTwo = some draftOfTable := by
    rfl
  have halike := read_alike { dialect := .sqlite, connection := ({} : DryRun) }
  exact ⟨hafter, rfl, rfl, halike.2.1 _ _ _ hafter rfl rfl, rfl, halike.1 ownerColumn,
    by decide +kernel⟩

end SqlBuilder
