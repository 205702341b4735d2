import SqlBuilder.Proofs.Drafting.Batch
import SqlBuilder.Proofs.Legality.Expr
import SqlBuilder.Proofs.Spelling.Numbering
import SqlBuilder.Proofs.Spelling.Rows

/-!
# Insertions row by row

An insertion is rectangular if every row has a value for each column. Whether it is comes first: a
row that is too short or too long is reported whatever else is wrong. A rectangular insertion
renders exactly if its names are not empty and each of its values can be written alone; and its text
is put together from what the values are written as alone, row by row, where only the placeholders
are counted on from one value to the next.
-/

namespace SqlBuilder

variable {d : Dialect}

/-- An expression as a value to insert, written alone. -/
def Expr.inserted (d : Dialect) (e : Expr) : Except BuildError Query :=
  (e.write d .insertValue).query

theorem Expr.inserted_eq (d : Dialect) (e : Expr) :
    e.inserted d = (do return (← e.fragment d .insertValue).toQuery d) :=
  (e.realizes_write .insertValue).query_eq

theorem Expr.reportsFirst_inserted (d : Dialect) (e : Expr) :
    ReportsFirst (e.inserted d) (e.faults d.objection? .insertValue) := by
  rw [inserted_eq]
  exact (e.reportsFirst .insertValue).bind_pure _

namespace Insert

/-! ## What is reported -/

/-- Every row has a value for each column, and there is something to insert. -/
structure IsRectangular (s : Insert) : Prop where
  /-- There are columns. -/
  columns_ne_nil : s.columns ≠ []
  /-- There are rows. -/
  rows_ne_nil : s.rows ≠ []
  /-- Every row has a value for each column. -/
  length_eq : ∀ row ∈ s.rows, row.length = s.columns.length

/-- The fault of a row that is reported as ragged. -/
def raggedFaults (s : Insert) : List BuildError :=
  s.raggedRow?.toList.map fun row ↦ .arityMismatch row.2 s.columns.length row.1.length

/-- What is wrong with an insertion: what is wrong as a whole, then the rest in the order of the
text, if that is what is held against literals. -/
def faults (objection : Literal → Option BuildError) (s : Insert) : List BuildError :=
  faultIf (s.columns = []) (.noColumns .insert)
    ++ (faultIf (s.rows = []) (.missingClause .insert .values)
    ++ (s.raggedFaults
    ++ (nameFaults s.table
    ++ (s.columns.flatMap nameFaults
    ++ s.rows.flatten.flatMap (Expr.faults objection .insertValue)))))

theorem reportsFirst_rowFragment (row : List Expr) :
    ReportsFirst (rowFragment d row) (row.flatMap (Expr.faults d.objection? .insertValue)) :=
  (Expr.reportsFirst_fragments row .insertValue).bind_pure _

/-- Writing an insertion reports the first of its faults. -/
theorem reportsFirst (s : Insert) : ReportsFirst (s.fragment d) (s.faults d.objection?) := by
  rw [fragment, faults]
  simp only [throw_bind, List.isEmpty_iff]
  refine .check fun _ ↦ .check fun _ ↦ ?_
  rw [raggedFaults]
  cases s.raggedRow? with
  | some row => rfl
  | none =>
    refine (Fragment.reportsFirst_ofName s.table).bind fun _ _ ↦ ?_
    have hnames : ReportsFirst (Fragment.ofNames s.columns) (s.columns.flatMap nameFaults) :=
      (ReportsFirst.mapM fun name _ ↦ Fragment.reportsFirst_ofName name).bind_pure _
    refine hnames.bind fun _ _ ↦ ?_
    rw [List.flatten_eq_flatMap, List.flatMap_assoc]
    exact (ReportsFirst.mapM fun row _ ↦ reportsFirst_rowFragment row).bind_pure _

theorem reportsFirst_toQuery (s : Insert) :
    ReportsFirst (Statement.toQuery d s) (s.faults d.objection?) := by
  rw [Statement.toQuery_eq]
  exact s.reportsFirst.bind_pure _

/-- The first row of another length than the list of columns is the ragged one. -/
theorem raggedRow?_eq_some {s : Insert} {front back : List (List Expr)} {row : List Expr}
    (hrows : s.rows = front ++ row :: back) (hfront : ∀ r ∈ front, r.length = s.columns.length)
    (hrow : row.length ≠ s.columns.length) : s.raggedRow? = some (row, front.length) := by
  rw [raggedRow?, hrows, List.zipIdx_append, List.zipIdx_cons, List.find?_append,
    List.find?_eq_none.mpr, Option.none_or, List.find?_cons_of_pos]
  · simp
  · simpa using hrow
  · intro r hr
    simpa using hfront r.1 (List.fst_mem_of_mem_zipIdx hr)

/-- Of a rectangular insertion only names and values can be at fault. -/
theorem IsRectangular.faults_eq {s : Insert} (h : s.IsRectangular)
    (objection : Literal → Option BuildError) :
    s.faults objection = (s.table :: s.columns).flatMap nameFaults
      ++ s.rows.flatten.flatMap (Expr.faults objection .insertValue) := by
  rw [faults, raggedFaults, raggedRow?_eq_none_iff.mpr h.length_eq,
    faultIf_eq_nil_iff.mpr h.columns_ne_nil, faultIf_eq_nil_iff.mpr h.rows_ne_nil,
    List.flatMap_cons, List.append_assoc]
  rfl

/-! ## What is written -/

/-- The text in front of the values. -/
def headerText (d : Dialect) (s : Insert) : String :=
  "INSERT INTO " ++ d.quoteIdentifier s.table ++ " ("
    ++ ", ".intercalate (s.columns.map d.quoteIdentifier) ++ ") VALUES "

/-- The texts of values as a row. -/
def rowText (texts : List String) : String :=
  "(" ++ ", ".intercalate texts ++ ")"

/-- The query is the header with the texts behind it, one row for each row and one text for each
value. -/
structure IsWrittenWith (d : Dialect) (s : Insert) (q : Query) (texts : List (List String)) :
    Prop where
  /-- There is a list of texts for each row. -/
  length_eq : texts.length = s.rows.length
  /-- There is a text in it for each column. -/
  length_of_mem : ∀ row ∈ texts, row.length = s.columns.length
  /-- The rows stand behind the header, in parentheses and with commas between them. -/
  sql_eq : q.sql = s.headerText d ++ ", ".intercalate (texts.map rowText)
  /-- A value reads as it does alone, with its placeholders numbered behind those of the values in
  front of it. -/
  value : ∀ front e back, s.rows.flatten = front ++ e :: back → ∃ f text,
    e.fragment d .insertValue = .ok f ∧ texts.flatten[front.length]? = some text ∧
      text = f.textBehind d (front.flatMap Expr.binds).length ∧
      ∃ alone, e.inserted d = .ok alone ∧
        Renumbered d alone.binds.length (front.flatMap Expr.binds).length alone.sql text

/-- A row as it is written, if its values are written as the fragments. -/
def rowPieces (fs : List Fragment) : Fragment :=
  .text "(" :: (Fragment.commaList fs ++ [.text ")"])

theorem chars_rowPieces (before : Nat) (fs : List Fragment) : (rowPieces fs).chars d before
    = (rowText ((Fragment.charsEach d before fs).map String.ofList)).toList := by
  rw [rowPieces, rowText, String.toList_append, String.toList_append, ← Fragment.chars_commaList]
  simp [Fragment.chars, Fragment.chars_append]

theorem charsEach_rowPieces (before : Nat) (fss : List (List Fragment)) :
    (Fragment.charsEach d before (fss.map rowPieces)).map String.ofList
      = ((Fragment.charsRows d before fss).map (List.map String.ofList)).map rowText := by
  induction fss generalizing before with
  | nil => rfl
  | cons fs fss ih =>
    have hbinds : (rowPieces fs).binds = fs.flatMap Fragment.binds := by simp [rowPieces]
    rw [List.map_cons, Fragment.charsEach, Fragment.charsRows, List.map_cons, List.map_cons,
      List.map_cons, hbinds, ih, chars_rowPieces, String.ofList_toList]

/-- Rows that can be written are written value by value. -/
theorem exists_fragments_of_rows {rows : List (List Expr)} {fs : List Fragment}
    (h : List.Forall₂ (fun row f ↦ rowFragment d row = .ok f) rows fs) :
    ∃ fss, fs = fss.map rowPieces ∧
      List.Forall₂ (List.Forall₂ fun e f ↦ e.fragment d .insertValue = .ok f) rows fss := by
  induction h with
  | nil => exact ⟨[], rfl, .nil⟩
  | @cons row f rows fs hrow _ ih =>
    obtain ⟨gs, hgs, rfl⟩ := rowFragment_eq_ok_iff.mp hrow
    obtain ⟨fss, rfl, hfss⟩ := ih
    exact ⟨gs :: fss, rfl, .cons hgs hfss⟩

/-- Each value is written behind the values in front of it. -/
theorem exists_text_of_value {es : List Expr} {fs : List Fragment}
    (h : List.Forall₂ (fun e f ↦ e.fragment d .insertValue = .ok f) es fs) (before : Nat)
    {front back : List Expr} {e : Expr} (hes : es = front ++ e :: back) :
    ∃ f, e.fragment d .insertValue = .ok f ∧ (Fragment.charsEach d before fs)[front.length]?
      = some (f.chars d (before + (front.flatMap Expr.binds).length)) := by
  induction front generalizing es fs before with
  | nil =>
    subst hes
    obtain ⟨f, fs, hf, -, rfl⟩ := List.forall₂_cons_left_iff.mp h
    exact ⟨f, hf, rfl⟩
  | cons a front ih =>
    subst hes
    obtain ⟨f, fs, hf, hfs, rfl⟩ := List.forall₂_cons_left_iff.mp h
    obtain ⟨g, hg, htext⟩ := ih hfs (before + f.binds.length) rfl
    refine ⟨g, hg, ?_⟩
    rw [Fragment.charsEach, List.length_cons, List.getElem?_cons_succ, htext,
      Expr.binds_fragment hf, List.flatMap_cons, List.length_append, Nat.add_assoc]

/-- The header has no placeholders, so the rows are counted from the beginning. -/
theorem chars_fragment (s : Insert) (fs : List Fragment) :
    Fragment.chars d 0 (.text "INSERT INTO " :: .name s.table :: .text " ("
      :: (Fragment.commaList (nameFragments s.columns) ++ .text ") VALUES "
        :: Fragment.commaList fs))
      = (s.headerText d
        ++ ", ".intercalate ((Fragment.charsEach d 0 fs).map String.ofList)).toList := by
  have hnames : (Fragment.charsEach d 0 (nameFragments s.columns)).map String.ofList
      = s.columns.map d.quoteIdentifier := by
    rw [Fragment.charsEach_of_binds_eq_nil (by simp [nameFragments]), nameFragments]
    simp [Fragment.chars, Function.comp_def]
  have hbinds : (Fragment.commaList (nameFragments s.columns)).binds = [] := by simp
  rw [headerText]
  simp only [Fragment.chars, Fragment.chars_append, hbinds, List.length_nil, Nat.add_zero,
    Fragment.chars_commaList, hnames, String.toList_append, List.append_assoc]

/-- Only a rectangular insertion is written, and it is written value by value. -/
theorem exists_isWrittenWith {s : Insert} {q : Query} (h : Statement.toQuery d s = .ok q) :
    s.IsRectangular ∧ ∃ texts, s.IsWrittenWith d q texts := by
  obtain ⟨f, hf, rfl⟩ := Statement.exists_fragment_of_eq_ok h
  obtain ⟨hcolumns, hrows, hragged, -, -, fs, hfs, rfl⟩ := fragment_eq_ok_iff.mp hf
  obtain ⟨fss, rfl, hfss⟩ := exists_fragments_of_rows hfs
  have hlength := raggedRow?_eq_none_iff.mp hragged
  have hshape : (Fragment.charsRows d 0 fss).map List.length = s.rows.map List.length := by
    rw [Fragment.map_length_charsRows]
    exact map_eq_of_forall₂ hfss fun _ _ h ↦ h.length_eq.symm
  refine ⟨⟨hcolumns, hrows, hlength⟩, (Fragment.charsRows d 0 fss).map (List.map String.ofList),
    ?_, ?_, ?_, ?_⟩
  · simpa using congrArg List.length hshape
  · intro texts htexts
    obtain ⟨row, hrow, rfl⟩ := List.mem_map.mp htexts
    have hmem : row.length ∈ s.rows.map List.length := hshape ▸ List.mem_map_of_mem hrow
    obtain ⟨row', hrow', hsame⟩ := List.mem_map.mp hmem
    rw [List.length_map, ← hsame, hlength row' hrow']
  · rw [Fragment.toQuery, chars_fragment, String.ofList_toList, charsEach_rowPieces]
  · intro front e back hsplit
    obtain ⟨f, hf, htext⟩ := exists_text_of_value (d := d) (List.rel_flatten hfss) 0 hsplit
    rw [← Fragment.flatten_charsRows, Nat.zero_add] at htext
    refine ⟨f, _, hf, ?_, rfl, f.toQuery d, ?_, Fragment.renumbered_textBehind d _ f⟩
    · rw [← List.map_flatten, List.getElem?_map, htext]
      rfl
    · rw [Expr.inserted_eq, hf]
      rfl

/-! ## What an insertion gives -/

/-- What is given for an insertion: the first thing that is wrong with it, or its text. -/
structure Gives (d : Dialect) (s : Insert) (r : Except BuildError Query) : Prop where
  /-- Without columns nothing else is looked at. -/
  noColumns : s.columns = [] → r = .error (.noColumns .insert)
  /-- With columns, rows are missing next. -/
  noRows : s.columns ≠ [] → s.rows = [] → r = .error (.missingClause .insert .values)
  /-- The first row that has not one value for each column is reported, whatever else is wrong. -/
  ragged : s.columns ≠ [] → ∀ front row back, s.rows = front ++ row :: back →
    (∀ row' ∈ front, row'.length = s.columns.length) → row.length ≠ s.columns.length →
    r = .error (.arityMismatch front.length s.columns.length row.length)
  /-- A rectangular insertion is written exactly if all names are there and each value can be
  written alone. -/
  exists_ok_iff : s.IsRectangular → ((∃ q, r = .ok q) ↔
    "" ∉ s.table :: s.columns ∧ ∀ e ∈ s.rows.flatten, ∃ q, e.inserted d = .ok q)
  /-- An empty name comes before every value. -/
  emptyName : s.IsRectangular → "" ∈ s.table :: s.columns → r = .error .emptyIdentifier
  /-- Then the first value that cannot be written alone is reported, with the fault that it has
  alone. -/
  failingValue : s.IsRectangular → "" ∉ s.table :: s.columns → ∀ front e back x,
    s.rows.flatten = front ++ e :: back → (∀ e' ∈ front, ∃ q, e'.inserted d = .ok q) →
    e.inserted d = .error x → r = .error x
  /-- What is written is put together from what the values are written as alone. -/
  written : ∀ q, r = .ok q → s.IsRectangular ∧ ∃ texts, s.IsWrittenWith d q texts

/-- An insertion gives the first thing that is wrong with it, or its text. -/
theorem gives (d : Dialect) (s : Insert) : s.Gives d (Statement.toQuery d s) where
  noColumns h := by
    rw [s.reportsFirst_toQuery.eq_error_iff]
    simp [faults, faultIf, h]
  noRows hcolumns h := by
    rw [s.reportsFirst_toQuery.eq_error_iff]
    simp [faults, faultIf, hcolumns, h]
  ragged hcolumns front row back hrows hfront hrow := by
    have hne : s.rows ≠ [] := by simp [hrows]
    rw [s.reportsFirst_toQuery.eq_error_iff, faults, raggedFaults,
      raggedRow?_eq_some hrows hfront hrow]
    simp [faultIf, hcolumns, hne]
  exists_ok_iff h := by
    rw [s.reportsFirst_toQuery.exists_eq_ok_iff, h.faults_eq, List.append_eq_nil_iff,
      flatMap_nameFaults_eq_nil_iff, List.flatMap_eq_nil_iff]
    simp only [(Expr.reportsFirst_inserted d _).exists_eq_ok_iff]
  emptyName h hname := by
    rw [s.reportsFirst_toQuery.eq_error_iff, h.faults_eq, List.head?_append,
      head?_flatMap_nameFaults hname]
    rfl
  failingValue h hnames front e back x hrows hfront he := by
    rw [(Expr.reportsFirst_inserted d e).eq_error_iff] at he
    simp only [(Expr.reportsFirst_inserted d _).exists_eq_ok_iff] at hfront
    rw [s.reportsFirst_toQuery.eq_error_iff, h.faults_eq, flatMap_nameFaults_eq_nil_iff.mpr hnames,
      List.nil_append, hrows, List.flatMap_append, List.flatMap_eq_nil_iff.mpr hfront,
      List.nil_append, List.flatMap_cons, List.head?_append, he]
    rfl
  written _ := exists_isWrittenWith

/-! ## Drafts -/

/-- The columns that clauses name, in their order. -/
def columnsOf (cs : List Clause) : List String :=
  cs.flatMap fun
    | .columns names => names
    | .values _ => []

/-- The rows that clauses give, in their order. -/
def rowsOf (cs : List Clause) : List (List Expr) :=
  cs.filterMap fun
    | .columns _ => none
    | .values row => some row

theorem foldl_extend (s : Insert) (cs : List Clause) : cs.foldl extend s
    = { s with columns := s.columns ++ columnsOf cs, rows := s.rows ++ rowsOf cs } := by
  induction cs generalizing s with
  | nil => simp [columnsOf, rowsOf]
  | cons c cs ih =>
    rw [List.foldl_cons, ih]
    cases c with
    | columns names => simp [extend, columnsOf, rowsOf]
    | values row => simp [extend, columnsOf, rowsOf]

variable {σ ρ ε : Type} [Connection σ ρ ε] {db : Database σ}

/-- **Rectangles.** As long as nothing was rendered, what the draft of an insertion gives is decided
by the columns and the rows of its clauses: what is reported if they are no rectangle or something
in it cannot be written, and otherwise how the text is put together from the values row by row. -/
theorem gives_of_after {table : String} {cs : List (Call Clause Empty)} {b : Draft Insert}
    (h : ({ content := { table } } : Draft Insert).after db cs = some b)
    (hb : b.stage = .building) :
    b.content = { table, columns := columnsOf (clausesOf cs), rows := rowsOf (clausesOf cs) } ∧
      b.content.Gives db.dialect (b.toQuery db.dialect) := by
  have haccept (k : Clause) : Refusable.refusal? db.dialect k = none := rfl
  constructor
  · rw [Draft.content_of_building haccept h hb]
    exact foldl_extend { table } (clausesOf cs)
  · rw [Draft.toQuery_of_building haccept h hb]
    exact gives db.dialect b.content

/-- Columns in two calls, and two rows with placeholders in calls, arguments and between them. -/
def pairCalls : List (Call Clause Empty) :=
  [.clause (.columns ["a"]), .clause (.values [.bind (.int 1), .call "f" [.bind (.int 2)]]),
    .preview, .clause (.columns ["b"]),
    .clause (.values [.literal .default, .call "g" [.bind (.int 3), .bind (.int 4)]])]

/-- The draft of the clauses in `pairCalls`. -/
def pairDraft : Draft Insert where
  content :=
    { table := "t"
      columns := ["a", "b"]
      rows := [[.bind (.int 1), .call "f" [.bind (.int 2)]],
        [.literal .default, .call "g" [.bind (.int 3), .bind (.int 4)]]] }

/-- The last value reads `g($1, $2)` alone, and `g($3, $4)` behind two others that are bound. -/
theorem gives_of_after_pair :
    ({ content := { table := "t" } } : Draft Insert).after
        { dialect := .postgresql, connection := ({} : DryRun) } pairCalls = some pairDraft ∧
      pairDraft.stage = .building ∧
      pairDraft.toQuery .postgresql = .ok
        ⟨"INSERT INTO \"t\" (\"a\", \"b\") VALUES ($1, f($2)), (DEFAULT, g($3, $4))",
          [.int 1, .int 2, .int 3, .int 4]⟩ ∧
      ∃ texts : List (List String), texts.length = 2 ∧ (∀ row ∈ texts, row.length = 2) ∧
        texts.flatten[3]? = some "g($3, $4)" ∧
        Renumbered .postgresql 2 2 "g($1, $2)" "g($3, $4)" := by
  have hafter : ({ content := { table := "t" } } : Draft Insert).after
      { dialect := .postgresql, connection := ({} : DryRun) } pairCalls = some pairDraft := by
    rfl
  have hquery : pairDraft.toQuery .postgresql = .ok
      ⟨"INSERT INTO \"t\" (\"a\", \"b\") VALUES ($1, f($2)), (DEFAULT, g($3, $4))",
        [.int 1, .int 2, .int 3, .int 4]⟩ := by
    decide +kernel
  obtain ⟨-, hgives⟩ := gives_of_after hafter rfl
  obtain ⟨-, texts, hwritten⟩ := hgives.written _ hquery
  obtain ⟨f, text, hf, hmem, htext, alone, halone, hrenumbered⟩ := hwritten.value
    [.bind (.int 1), .call "f" [.bind (.int 2)], .literal .default] _ [] rfl
  have hg : (Expr.call "g" [.bind (.int 3), .bind (.int 4)]).fragment .postgresql .insertValue
      = .ok [.text "g", .text "(", .bind (.int 3), .text ", ", .bind (.int 4), .text ")"] := by
    rfl
  have hq : (Expr.call "g" [.bind (.int 3), .bind (.int 4)]).inserted .postgresql
      = .ok ⟨"g($1, $2)", [.int 3, .int 4]⟩ := by
    decide +kernel
  obtain rfl := Except.ok.inj (hf.symm.trans hg)
  obtain rfl := Except.ok.inj (halone.symm.trans hq)
  have hbehind : text = "g($3, $4)" := htext.trans (by decide +kernel)
  subst hbehind
  exact ⟨hafter, rfl, hquery, texts, hwritten.length_eq, hwritten.length_of_mem, hmem, hrenumbered⟩

end Insert

end SqlBuilder
