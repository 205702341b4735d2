import SqlBuilder.Proofs.Drafting.Draft
import SqlBuilder.Proofs.Spelling.Closed

/-!
# Columns and changes as items

Whoever reads the creation or the alteration of a table finds a list in it, and should find the
columns or the changes that were asked for as its items, one for one and in their order. A custom
type is written without quotes, and every character that it may hold is harmless by itself, but
commas and parentheses are not harmless together: a type may end its item and begin another one. So
a statement is read as what was asked for exactly if every custom type in it stays together.
-/

namespace SqlBuilder

open Reading

variable {d : Dialect} {f : Fragment}

/-! ## Items of a statement -/

/-- Written on its own, it is read as the given parts. -/
def ReadsAs (d : Dialect) (written : Except BuildError Fragment) (ns : List Nest) : Prop :=
  ∃ f rs, written = .ok f ∧ Reading.regions d (f.toQuery d).sql.toList = some rs ∧
    nests rs = some ns

/-- The list between the outer parentheses of the text has the columns as its items. -/
def CreateTable.Itemized (d : Dialect) (sql : String) (columns : List ColumnDefinition) : Prop :=
  ∃ rs ns list, Reading.regions d sql.toList = some rs ∧ Balanced rs ∧ nests rs = some ns ∧
    enclosedList ns = some list ∧
    List.Forall₂ (fun c item ↦ ReadsAs d (c.fragment d) item) columns (items list)

/-- The list behind the table in the text has the changes as its items. -/
def AlterTable.Itemized (d : Dialect) (sql : String) (ops : List AlterOperation) : Prop :=
  ∃ rs ns, Reading.regions d sql.toList = some rs ∧ Balanced rs ∧ nests rs = some ns ∧
    List.Forall₂ (fun op item ↦ ReadsAs d (op.fragment d) item) ops (items (listBehindName ns))

theorem regions_toQuery (hd : d.Regular) {T : Set QuotedText} (hf : f.Sound T) :
    Reading.regions d (f.toQuery d).sql.toList = some (f.regions d 0) := by
  rw [Fragment.toQuery, String.toList_ofList, Fragment.regions_chars hd hf]

/-- Parts with commas between them are read as a list of them. -/
theorem Fragment.nested_commaList {fs : List Fragment} {nss : List (List Nest)}
    (h : List.Forall₂ (fun f ns ↦ f.binds = [] ∧ nests (f.regions d 0) = some ns) fs nss) :
    Nested ((commaList fs).regions d 0) (Nest.listed nss) := by
  rw [commaList]
  induction h with
  | nil => exact .nil
  | @cons f ns fs nss hf hfs ih =>
    obtain ⟨hbinds, hns⟩ := hf
    have hnested := nested_iff.mpr hns
    cases hfs with
    | nil => exact hnested
    | cons hg hgs =>
      have hseparator : ", ".toList = [',', ' '] := by simp
      rw [joined, Nest.listed, regions_append_of_binds hbinds, regions_text, hseparator]
      · refine hnested.append (Nested.append (.regions ?_) ih)
        decide
      · exact List.cons_ne_nil _ _
      · exact List.cons_ne_nil _ _

/-! ## What is written as an item -/

/-- Whatever is written this way is an item if it stays together, and it does exactly under the
condition. -/
structure WritesItems {α : Type} (d : Dialect) (write : α → Except BuildError Fragment)
    (IsClosed : α → Prop) : Prop where
  sound : ∀ a f, write a = .ok f → f.Sound Set.univ ∧ f.binds = []
  closed_iff : ∀ a f, write a = .ok f → (Closed (f.regions d 0) ↔ IsClosed a)
  head : ∀ a f, write a = .ok f →
    ∃ r rs, f.regions d 0 = r :: rs ∧ r.isParenthesis = false ∧ r ≠ .plain ' '

namespace WritesItems

theorem column (hd : d.KeepsTogether) :
    WritesItems d (ColumnDefinition.fragment d) fun c ↦ c.dataType.IsClosed where
  sound _ _ h := ColumnDefinition.sound_fragment hd.regular h fun _ _ ↦ trivial
  closed_iff _ _ h := ColumnDefinition.closed_iff hd h
  head c f h := by
    obtain ⟨rs, hrs⟩ := ColumnDefinition.exists_regions_eq_cons h
    exact ⟨_, rs, hrs, rfl, nofun⟩

theorem operation (hd : d.KeepsTogether) :
    WritesItems d (AlterOperation.fragment d) AlterOperation.IsClosed where
  sound _ _ h := AlterOperation.sound_fragment hd.regular h fun _ _ ↦ trivial
  closed_iff _ _ h := AlterOperation.closed_iff hd h
  head op f h := by
    obtain ⟨c, rs, hc, hrs⟩ := AlterOperation.exists_regions_eq_cons hd h
    have hne {c' : Char} (hc' : c'.isAlpha = false) : c ≠ c' := ne_of_class hc hc'
    refine ⟨.plain c, rs, hrs, ?_, fun hblank ↦ hne rfl (Region.plain.inj hblank)⟩
    have hopening : c ≠ '(' := hne rfl
    have hclosing : c ≠ ')' := hne rfl
    simp [Region.isParenthesis, hopening, hclosing]

variable {α : Type} {write : α → Except BuildError Fragment} {IsClosed : α → Prop} {as : List α}

theorem readsAs_iff (h : WritesItems d write IsClosed) (hd : d.Regular) {a : α}
    (hf : write a = .ok f) {ns : List Nest} :
    ReadsAs d (write a) ns ↔ nests (f.regions d 0) = some ns := by
  have hregions := regions_toQuery hd (h.sound a f hf).1
  constructor
  · rintro ⟨f', rs, hf', hrs, hns⟩
    obtain rfl := Except.ok.inj (hf.symm.trans hf')
    obtain rfl := Option.some.inj (hregions.symm.trans hrs)
    exact hns
  · intro hns
    exact ⟨f, _, hf, hregions, hns⟩

/-- What was found as an item stays together. -/
theorem isClosed_of_items (h : WritesItems d write IsClosed) (hd : d.Regular) {list : List Nest}
    (hitems : List.Forall₂ (fun a item ↦ ReadsAs d (write a) item) as (items list)) :
    ∀ a ∈ as, IsClosed a := by
  refine forall_mem_of_forall₂ hitems.flip fun item hitem a hread ↦ ?_
  obtain ⟨f, -, hf, -, -⟩ := id hread
  have hnests := (h.readsAs_iff hd hf).mp hread
  exact (h.closed_iff a f hf).mp ⟨item, hnests, isComma_of_mem_items hitem⟩

/-- What stays together is read as parts that can be items. -/
theorem exists_parts (h : WritesItems d write IsClosed) (hd : d.Regular) {fs : List Fragment}
    (hfs : List.Forall₂ (fun a f ↦ write a = .ok f) as fs) (hclosed : ∀ a ∈ as, IsClosed a) :
    ∃ nss, List.Forall₂ (fun f ns ↦ f.binds = [] ∧ nests (f.regions d 0) = some ns) fs nss ∧
      List.Forall₂ (fun a ns ↦ ReadsAs d (write a) ns) as nss ∧ ∀ ns ∈ nss, IsItem ns := by
  induction hfs with
  | nil => exact ⟨[], .nil, .nil, fun _ h ↦ absurd h List.not_mem_nil⟩
  | @cons a f as fs hf _ ih =>
    obtain ⟨ha, has⟩ := List.forall_mem_cons.mp hclosed
    obtain ⟨nss, hnss, hreads, hitems⟩ := ih has
    obtain ⟨r, rs, hregions, hr, hblank⟩ := h.head a f hf
    have htogether := (h.closed_iff a f hf).mpr ha
    rw [hregions] at htogether
    obtain ⟨ns, hns, hitem⟩ := htogether.exists_isItem hr hblank
    rw [← hregions] at hns
    exact ⟨ns :: nss, .cons ⟨(h.sound a f hf).2, hns⟩ hnss,
      .cons ((h.readsAs_iff hd hf).mpr hns) hreads, List.forall_mem_cons.mpr ⟨hitem, hitems⟩⟩

/-- What stays together is found as the items of a list of it. -/
theorem exists_list (h : WritesItems d write IsClosed) (hd : d.Regular) {fs : List Fragment}
    (hfs : List.Forall₂ (fun a f ↦ write a = .ok f) as fs) (hclosed : ∀ a ∈ as, IsClosed a)
    (hne : as ≠ []) :
    ∃ list, Nested ((Fragment.commaList fs).regions d 0) list ∧
      List.Forall₂ (fun a item ↦ ReadsAs d (write a) item) as (items list) := by
  obtain ⟨nss, hnss, hreads, hitems⟩ := h.exists_parts hd hfs hclosed
  refine ⟨Nest.listed nss, Fragment.nested_commaList hnss, ?_⟩
  have hnonempty : nss ≠ [] := by
    rintro rfl
    exact hne (List.forall₂_nil_right_iff.mp hreads)
  rwa [items_listed hnonempty hitems]

end WritesItems

/-! ## Statements -/

namespace CreateTable

/-- The list of columns is what the outer parentheses enclose. -/
theorem exists_regions_eq {s : CreateTable} {columns : List Fragment}
    (hbinds : ∀ f ∈ columns, f.binds = []) :
    ∃ head : List Region, (∀ r ∈ head, r.isParenthesis = false) ∧
      Fragment.regions d 0 (.text "CREATE TABLE " :: (Fragment.optional s.ifNotExists
          "IF NOT EXISTS " ++ .name s.table :: .text " (" ::
            (Fragment.commaList columns ++ [.text ")"]))) =
        head ++ .plain '(' :: ((Fragment.commaList columns).regions d 0 ++ [.plain ')']) := by
  have hlist : (Fragment.commaList columns).binds = [] := by
    rw [Fragment.binds_commaList]
    exact List.flatMap_eq_nil_iff.mpr hbinds
  have hopening : " (".toList = [' ', '('] := by simp
  have hclosing : ")".toList = [')'] := by simp
  have hname : ∀ r ∈ [Region.quoted (.name s.table), .plain ' '], r.isParenthesis = false := by
    simp [Region.isParenthesis]
  cases s.ifNotExists with
  | false =>
    have hwords : ∀ r ∈ plainly "CREATE TABLE ".toList, r.isParenthesis = false := by decide
    refine ⟨_, List.forall_mem_append.mpr ⟨hwords, hname⟩, ?_⟩
    simp [Fragment.optional, Fragment.regions_append, hlist, hopening, hclosing]
  | true =>
    have hwords : ∀ r ∈ plainly ("CREATE TABLE ".toList ++ "IF NOT EXISTS ".toList),
        r.isParenthesis = false := by
      decide
    refine ⟨_, List.forall_mem_append.mpr ⟨hwords, hname⟩, ?_⟩
    simp [Fragment.optional, Fragment.regions_append, hlist, hopening, hclosing]

/-- The columns are the items exactly if every custom type among theirs stays together. -/
theorem itemized_iff (hd : d.KeepsTogether) {s : CreateTable} {q : Query}
    (h : Statement.toQuery d s = .ok q) :
    Itemized d q.sql s.columns ↔ ∀ c ∈ s.columns, c.dataType.IsClosed := by
  have hwrites := WritesItems.column hd
  obtain ⟨f, hf, rfl⟩ := Statement.exists_fragment_of_eq_ok h
  constructor
  · rintro ⟨rs, ns, list, -, -, -, -, hitems⟩
    exact hwrites.isClosed_of_items hd.regular hitems
  · intro hclosed
    have hregions := regions_toQuery hd.regular (sound_fragment hd.regular hf fun _ _ ↦ trivial).1
    obtain ⟨hne, -, columns, hcolumns, rfl⟩ := fragment_eq_ok_iff.mp hf
    obtain ⟨list, hlist, hitems⟩ := hwrites.exists_list hd.regular hcolumns hclosed hne
    have hbinds : ∀ f ∈ columns, f.binds = [] :=
      forall_mem_of_forall₂ hcolumns fun c _ f hf ↦ (hwrites.sound c f hf).2
    obtain ⟨head, hhead, hsplit⟩ := exists_regions_eq hbinds
    rw [hsplit] at hregions
    have hnested := nested_iff.mp ((Nested.regions hhead).append hlist.enclosed)
    exact ⟨_, _, list, hregions, balanced_of_nests hnested, hnested, enclosedList_append _ _,
      hitems⟩

end CreateTable

namespace AlterTable

/-- The changes are the items exactly if every custom type in them stays together. -/
theorem itemized_statement_iff (hd : d.KeepsTogether) {table : String} {ops : List AlterOperation}
    (hne : ops ≠ []) (h : statement d table ops = .ok f) :
    Itemized d (f.toQuery d).sql ops ↔ ∀ op ∈ ops, op.IsClosed := by
  have hwrites := WritesItems.operation hd
  constructor
  · rintro ⟨rs, ns, -, -, -, hitems⟩
    exact hwrites.isClosed_of_items hd.regular hitems
  · intro hclosed
    have hsound :=
      (sound_statement (T := Set.univ) hd.regular h trivial fun _ _ _ _ ↦ trivial).1
    have hregions := regions_toQuery hd.regular hsound
    obtain ⟨-, changes, hchanges, rfl⟩ := statement_eq_ok_iff.mp h
    obtain ⟨list, hlist, hitems⟩ := hwrites.exists_list hd.regular hchanges hclosed hne
    have hkeywords : Nested (plainly "ALTER TABLE ".toList)
        ((plainly "ALTER TABLE ".toList).map .region) :=
      .regions (by decide)
    have htable : Nested [.quoted (.name table), .plain ' ']
        [.region (.quoted (.name table)), .region (.plain ' ')] :=
      .regions (by simp [Region.isParenthesis])
    have hnested := nested_iff.mp (hkeywords.append (htable.append hlist))
    refine ⟨_, _, hregions, balanced_of_nests hnested, hnested, ?_⟩
    rw [List.cons_append, listBehindName_append, List.cons_append, List.nil_append,
      items_blank_cons]
    exact hitems

theorem itemized_iff (hd : d.KeepsTogether) {s : AlterTable} {q : Query}
    (h : Statement.toQuery d s = .ok q) :
    Itemized d q.sql s.operations ↔ ∀ op ∈ s.operations, op.IsClosed := by
  obtain ⟨f, hf, rfl⟩ := Statement.exists_fragment_of_eq_ok h
  have hne : s.operations ≠ [] := by
    intro hempty
    change s.fragment d = .ok f at hf
    rw [fragment, ensureOperations, hempty] at hf
    cases hf
  exact itemized_statement_iff hd hne (statement_of_fragment hf)

/-- Each change of its own is the only item of its query exactly if it stays together. -/
theorem itemized_each_iff (hd : d.KeepsTogether) {s : AlterTable} {qs : List Query}
    (h : s.toQueries d = .ok qs) :
    List.Forall₂ (fun op q ↦ Itemized d q.sql [op] ↔ op.IsClosed) s.operations qs := by
  obtain ⟨-, fs, hfs, rfl⟩ := toQueries_eq_ok_iff.mp h
  refine List.forall₂_map_right_iff.mpr (hfs.imp fun op f hf ↦ ?_)
  rw [itemized_statement_iff hd (List.cons_ne_nil _ _) hf, List.forall_mem_singleton]

end AlterTable

/-- **Items.** In every built-in dialect, the creation and the alteration of a table are read as the
columns and the changes that were asked for exactly if every custom type in them stays together. -/
theorem itemized_iff_closed (hd : d ∈ Dialect.builtIn) :
    (∀ (b : Draft CreateTable) q, b.toQuery d = .ok q →
      (CreateTable.Itemized d q.sql b.content.columns ↔
        ∀ c ∈ b.content.columns, c.dataType.IsClosed)) ∧
    (∀ (b : Draft AlterTable) q, b.toQuery d = .ok q →
      (AlterTable.Itemized d q.sql b.content.operations ↔
        ∀ op ∈ b.content.operations, op.IsClosed)) ∧
    ∀ (b : Draft AlterTable) qs, b.preview (AlterTable.toQueries d) = .ok qs →
      List.Forall₂ (fun op q ↦ AlterTable.Itemized d q.sql [op] ↔ op.IsClosed)
        b.content.operations qs := by
  have hkeeps := Dialect.keepsTogether_of_mem_builtIn hd
  refine ⟨fun b q hq ↦ ?_, fun b q hq ↦ ?_, fun b qs hqs ↦ ?_⟩
  · exact CreateTable.itemized_iff hkeeps (Draft.preview_eq_ok_iff.mp hq).2.2
  · exact AlterTable.itemized_iff hkeeps (Draft.preview_eq_ok_iff.mp hq).2.2
  · exact AlterTable.itemized_each_iff hkeeps (Draft.preview_eq_ok_iff.mp hqs).2.2

/-- A price with two digits behind the point. -/
def priceColumns : List ColumnDefinition :=
  [{ name := "price", dataType := .custom "DECIMAL(10, 2)", constraints := [.notNull] },
    { name := "note, or (none", dataType := .varchar 40 }]

theorem itemized_iff_closed_price :
    Dialect.sqlite ∈ Dialect.builtIn ∧
      CreateTable.Itemized .sqlite
        "CREATE TABLE \"t\" (\"price\" DECIMAL(10, 2) NOT NULL, \"note, or (none\" TEXT)"
        priceColumns := by
  have hmem : Dialect.sqlite ∈ Dialect.builtIn := by simp [Dialect.builtIn]
  let b : Draft CreateTable := { content := { table := "t", columns := priceColumns } }
  have hq : b.toQuery .sqlite = .ok
      ⟨"CREATE TABLE \"t\" (\"price\" DECIMAL(10, 2) NOT NULL, \"note, or (none\" TEXT)", []⟩ := by
    decide +kernel
  refine ⟨hmem, ((itemized_iff_closed hmem).1 b _ hq).mpr fun c hc token htoken ↦ ?_⟩
  simp only [b, priceColumns, List.mem_cons, List.not_mem_nil, or_false] at hc
  rcases hc with rfl | rfl
  · obtain rfl := DataType.custom.inj htoken
    exact ⟨_, rfl, by decide⟩
  · cases htoken

/-- A type that ends the change it stands in and begins another one. -/
def smugglingType : String :=
  "INT, DROP COLUMN b"

/-- One change with `smugglingType`. -/
def smugglingDraft : Draft AlterTable where
  content :=
    { table := "t"
      operations := [.addColumn { name := "a", dataType := .custom smugglingType }] }

/-- The type is accepted, and a dialect that makes one change per statement is given two. -/
theorem not_itemized_smuggling :
    DataType.isValidToken smugglingType ∧ Dialect.sqlite.batchesAlter = false ∧
      smugglingDraft.toQuery .sqlite =
        .ok ⟨"ALTER TABLE \"t\" ADD COLUMN \"a\" INT, DROP COLUMN b", []⟩ ∧
      ¬AlterTable.Itemized .sqlite "ALTER TABLE \"t\" ADD COLUMN \"a\" INT, DROP COLUMN b"
        smugglingDraft.content.operations := by
  have hq : smugglingDraft.toQuery .sqlite =
      .ok ⟨"ALTER TABLE \"t\" ADD COLUMN \"a\" INT, DROP COLUMN b", []⟩ := by
    decide +kernel
  refine ⟨by decide, rfl, hq, fun hitems ↦ ?_⟩
  have hclosed := (AlterTable.itemized_iff Dialect.keepsTogether_sqlite
    (Draft.preview_eq_ok_iff.mp hq).2.2).mp hitems
  obtain ⟨ns, hns, hcomma⟩ := hclosed _ List.mem_cons_self smugglingType rfl
  have hflat : Nested (plainly smugglingType.toList)
      ((plainly smugglingType.toList).map .region) :=
    .regions (by decide)
  obtain rfl := Option.some.inj ((nested_iff.mp hflat).symm.trans hns)
  have hmem : Region.plain ',' ∈ plainly smugglingType.toList := by decide
  exact nomatch hcomma _ (List.mem_map_of_mem hmem)

end SqlBuilder
