import SqlBuilder.Proofs.Symbols.Select

/-!
# The symbols of insertions, indexes and removals

What is listed stands between parentheses of its own: the columns of an insertion and of an index,
and the values of each row. A row begins with a parenthesis that starts no call, because a blank or
a comma stands in front of it.
-/

namespace SqlBuilder

open Reading SqlBuilder.Symbol

variable {d : Dialect} {f : Fragment}

namespace Symbol

/-- A list with commas between parentheses. -/
def listed (sss : List (List Symbol)) : List Symbol :=
  .token .opening :: (separated (.token .comma) sss ++ [.token .closing])

end Symbol

namespace Fragment

theorem spells_listOpening : Spells " (" [.opening] :=
  @spells_of_getLast? " (" '(' (by decide) rfl

theorem spells_values : Spells ") VALUES " [.closing, .word "VALUES".toList] :=
  @spells_of_getLast? ") VALUES " ' ' (by decide) rfl

/-- Names between parentheses. -/
theorem Trails.listedNames (names : List String) :
    Trails d (.text " (" :: (commaList (nameFragments names) ++ [.text ")"]))
      (listed (Symbol.names names)) := by
  have hlist := Writes.commaList (@Select.writes_names d names)
  exact (hlist.closed.text spells_listOpening (by simp [isPlaceholder])).trails (by decide)

end Fragment

/-! ## Inserting -/

namespace Insert

/-- The symbols of a row. -/
def rowSymbols (d : Dialect) (row : List Expr) : List Symbol :=
  listed (row.map (Expr.symbols d))

/-- The symbols of an insertion. -/
def symbols (d : Dialect) (s : Insert) : List Symbol :=
  word "INSERT" :: word "INTO" :: .token (.name s.table) :: (listed (Symbol.names s.columns)
    ++ word "VALUES" :: separated (.token .comma) (s.rows.map (rowSymbols d)))

theorem writes_rowFragment (hd : d.Regular) {row : List Expr} (h : rowFragment d row = .ok f) :
    f.Writes d (rowSymbols d row) := by
  obtain ⟨fs, hfs, rfl⟩ := rowFragment_eq_ok_iff.mp h
  have hvalues := Fragment.Writes.commaList (Expr.writes_of_forall₂ hd hfs)
  exact hvalues.closed.text Fragment.spells_opening (by simp [isPlaceholder])

/-- An insertion is read as its symbols. -/
theorem writes (hd : d.Regular) {s : Insert} (h : s.fragment d = .ok f) :
    f.Writes d (s.symbols d) := by
  obtain ⟨-, -, -, -, -, rows, hrows, rfl⟩ := fragment_eq_ok_iff.mp h
  have hlist := Fragment.Writes.commaList (forall₂_map_of_forall₂ hrows fun row _ f hf ↦
    @writes_rowFragment d f hd row hf)
  have hvalues := (hlist.text Fragment.spells_values (by simp [isPlaceholder])).trails (by decide)
  have hcolumns := (Fragment.Writes.commaList (@Select.writes_names d s.columns)).append hvalues
  have hopened :=
    (hcolumns.text Fragment.spells_listOpening (by simp [isPlaceholder])).trails (by decide)
  have hall := ((Fragment.Writes.name s.table).append hopened).keywords "INSERT INTO "
    ["INSERT", "INTO"] (by decide)
  rw [symbols, listed]
  simpa only [word, List.map_cons, List.map_nil, List.cons_append, List.nil_append,
    List.append_assoc] using hall

theorem writesSymbols (hd : d.Regular) : Statement.WritesSymbols d (symbols d) :=
  fun s _ h ↦ ⟨writes hd h, {t | t ∈ s.texts}, sound_fragment hd h fun _ ht ↦ ht⟩

end Insert

/-! ## Creating an index -/

namespace CreateIndex

/-- The symbols of the creation of an index. -/
def symbols (s : CreateIndex) : List Symbol :=
  word "CREATE" :: (phrase s.unique ["UNIQUE"] ++ word "INDEX"
    :: (phrase s.ifNotExists ["IF", "NOT", "EXISTS"] ++ .token (.name s.name) :: word "ON"
      :: (s.table.toList.map (fun table ↦ .token (.name table))
        ++ listed (Symbol.names s.columns))))

/-- The creation of an index is read as its symbols. -/
theorem writes {s : CreateIndex} (h : s.fragment = .ok f) : f.Writes d s.symbols := by
  obtain ⟨table, htable, -, -, -, -, rfl⟩ := fragment_eq_ok_iff.mp h
  have hlist := @Fragment.Trails.listedNames d s.columns
  have hon := (((Fragment.Writes.name table).append hlist).keywords " ON " ["ON"]
    (by decide)).trails (by decide)
  have hindex := (((Fragment.Writes.name s.name).append hon).phrase s.ifNotExists "IF NOT EXISTS "
    ["IF", "NOT", "EXISTS"] (by decide)).keywords "INDEX " ["INDEX"] (by decide)
  have hall := (hindex.phrase s.unique "UNIQUE " ["UNIQUE"] (by decide)).keywords "CREATE "
    ["CREATE"] (by decide)
  rw [symbols, htable]
  simpa only [List.map_cons, List.map_nil, List.cons_append, List.nil_append, List.append_assoc,
    Option.toList_some] using hall

theorem writesSymbols : Statement.WritesSymbols d symbols :=
  fun s _ h ↦ ⟨writes h, {t | t ∈ s.texts}, (sound_fragment h fun _ ht ↦ ht).1⟩

end CreateIndex

/-! ## Dropping a table -/

namespace DropTable

/-- The symbols of the removal of a table. -/
def symbols (s : DropTable) : List Symbol :=
  word "DROP" :: word "TABLE" :: (phrase s.ifExists ["IF", "EXISTS"] ++ .token (.name s.table)
    :: phrase s.cascade ["CASCADE"])

theorem trails_cascade (asked : Bool) :
    (Fragment.optional asked " CASCADE").Trails d (phrase asked ["CASCADE"]) := by
  cases asked with
  | false => exact Fragment.Trails.nil
  | true =>
    refine Fragment.Writes.trails (by decide) (Fragment.Writes.of_texts [.word "CASCADE".toList] rfl
      ?_ (by decide))
    intro before rest hrest
    have hne : "CASCADE".toList ≠ [] := by simp
    have hparts : "CASCADE".toList.all isWordPart = true := by decide
    rw [Fragment.regions_text, Fragment.regions_nil, List.append_nil]
    exact tokens_word hne (List.all_eq_true.mp hparts) hrest

/-- The removal of a table is read as its symbols. -/
theorem writes {s : DropTable} (h : s.fragment = .ok f) : f.Writes d s.symbols := by
  obtain ⟨-, rfl⟩ := fragment_eq_ok_iff.mp h
  have hname := (Fragment.Writes.name s.table).append (@trails_cascade d s.cascade)
  have hall := (hname.phrase s.ifExists "IF EXISTS " ["IF", "EXISTS"] (by decide)).keywords
    "DROP TABLE " ["DROP", "TABLE"] (by decide)
  rw [symbols]
  simpa only [List.map_cons, List.map_nil, List.cons_append, List.nil_append, List.append_assoc]
    using hall

theorem writesSymbols : Statement.WritesSymbols d symbols :=
  fun s _ h ↦ ⟨writes h, {t | t ∈ s.texts}, (sound_fragment h fun _ ht ↦ ht).1⟩

end DropTable

end SqlBuilder
