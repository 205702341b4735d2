import SqlBuilder.Proofs.Pieces.Rows
import SqlBuilder.Proofs.Spelling.Condition

/-!
# What statements about rows write

The expressions of a statement are listed in the order in which they stand in its text. Everything
that a statement puts between quotes is the name of a table or of a column, or stands in one of its
expressions; and the values that travel beside it are those of its expressions in their order.
-/

namespace SqlBuilder

open Reading

variable {T : Set QuotedText} {d : Dialect} {f : Fragment}

/-! ## Lists of names -/

/-- The names as they are written one by one. -/
def nameFragments (names : List String) : List Fragment :=
  names.map fun name ↦ [.name name]

theorem mapM_ofName_eq_ok_iff {names : List String} {fs : List Fragment} :
    names.mapM Fragment.ofName = .ok fs ↔ (∀ name ∈ names, name ≠ "") ∧
    fs = nameFragments names := by
  rw [mapM_eq_ok_iff]
  induction names generalizing fs with
  | nil => simp [nameFragments]
  | cons name names ih =>
    constructor
    · rintro (_ | ⟨hf, hfs⟩)
      obtain ⟨hne, rfl⟩ := Fragment.ofName_eq_ok_iff.mp hf
      obtain ⟨hall, rfl⟩ := ih.mp hfs
      exact ⟨List.forall_mem_cons.mpr ⟨hne, hall⟩, rfl⟩
    · rintro ⟨hall, rfl⟩
      rw [List.forall_mem_cons] at hall
      exact List.Forall₂.cons (Fragment.ofName_eq_ok_iff.mpr ⟨hall.1, rfl⟩) (ih.mpr ⟨hall.2, rfl⟩)

theorem ofNames_eq_ok_iff {names : List String} :
    Fragment.ofNames names = .ok f
      ↔ (∀ name ∈ names, name ≠ "") ∧ f = Fragment.commaList (nameFragments names) := by
  simp only [Fragment.ofNames, bind_eq_ok_iff, mapM_ofName_eq_ok_iff, pure_eq_ok_iff]
  constructor
  · rintro ⟨_, ⟨hall, rfl⟩, rfl⟩
    exact ⟨hall, rfl⟩
  · rintro ⟨hall, rfl⟩
    exact ⟨_, ⟨hall, rfl⟩, rfl⟩

theorem sound_nameFragments {names : List String} (hT : ∀ name ∈ names, .name name ∈ T) :
    ∀ f ∈ nameFragments names, f.Sound T := by
  intro f hf
  obtain ⟨name, hname, rfl⟩ := List.mem_map.mp hf
  exact Fragment.Sound.single (hT name hname)

@[simp] theorem flatMap_binds_nameFragments (names : List String) :
    (nameFragments names).flatMap Fragment.binds = [] := by
  simp [nameFragments]

/-! ## Inserting -/

namespace Insert

/-- The values of all rows, row by row. -/
def expressions (s : Insert) : List Expr :=
  s.rows.flatten

/-- What an insertion puts between quotes. -/
def texts (s : Insert) : List QuotedText :=
  (s.table :: s.columns).map .name ++ s.expressions.flatMap Expr.texts

theorem rowFragment_eq_ok_iff {row : List Expr} :
    rowFragment d row = .ok f ↔
      ∃ fs, List.Forall₂ (fun e f ↦ e.fragment d .insertValue = .ok f) row fs ∧
        f = .text "(" :: (Fragment.commaList fs ++ [.text ")"]) := by
  simp only [rowFragment, bind_eq_ok_iff, Expr.fragments_eq_ok_iff, pure_eq_ok_iff, @eq_comm _ f]

/-- No row is ragged if every row has a value for each column. -/
theorem raggedRow?_eq_none_iff {s : Insert} :
    s.raggedRow? = none ↔ ∀ row ∈ s.rows, row.length = s.columns.length := by
  rw [raggedRow?, List.find?_eq_none]
  constructor
  · intro h row hrow
    rw [← List.zipIdx_map_fst 0 s.rows] at hrow
    obtain ⟨indexed, hindexed, rfl⟩ := List.mem_map.mp hrow
    simpa using h indexed hindexed
  · intro h indexed hindexed
    simpa using h indexed.1 (List.fst_mem_of_mem_zipIdx hindexed)

theorem fragment_eq_ok_iff {s : Insert} :
    s.fragment d = .ok f ↔ s.columns ≠ [] ∧ s.rows ≠ [] ∧ s.raggedRow? = none ∧ s.table ≠ "" ∧
      (∀ name ∈ s.columns, name ≠ "") ∧
      ∃ rows, List.Forall₂ (fun row f ↦ rowFragment d row = .ok f) s.rows rows ∧
        f = .text "INSERT INTO " :: .name s.table :: .text " ("
          :: (Fragment.commaList (nameFragments s.columns) ++ .text ") VALUES "
            :: Fragment.commaList rows) := by
  cases hragged : s.raggedRow? with
  | some row =>
    simp only [fragment, hragged, throw_bind, ite_throw_eq_ok_iff, throw_eq_ok_iff]
    simp
  | none =>
    simp only [fragment, hragged, throw_bind, ite_throw_eq_ok_iff, bind_eq_ok_iff, pure_eq_ok_iff,
      Fragment.ofName_eq_ok_iff, ofNames_eq_ok_iff, mapM_eq_ok_iff, List.isEmpty_iff]
    constructor
    · rintro ⟨hcolumns, hrows, _, ⟨htable, rfl⟩, _, ⟨hnames, rfl⟩, rows, hfs, rfl⟩
      exact ⟨hcolumns, hrows, trivial, htable, hnames, rows, hfs, rfl⟩
    · rintro ⟨hcolumns, hrows, -, htable, hnames, rows, hfs, rfl⟩
      exact ⟨hcolumns, hrows, _, ⟨htable, rfl⟩, _, ⟨hnames, rfl⟩, rows, hfs, rfl⟩

theorem sound_fragment (hd : d.Regular) {s : Insert} (h : s.fragment d = .ok f)
    (hT : ∀ t ∈ s.texts, t ∈ T) : f.Sound T := by
  obtain ⟨-, -, -, -, -, rows, hrows, rfl⟩ := fragment_eq_ok_iff.mp h
  have hvalues : ∀ f ∈ rows, f.Sound T := by
    refine forall_mem_of_forall₂ hrows ?_
    intro row hrow f hf
    obtain ⟨fs, hfs, rfl⟩ := rowFragment_eq_ok_iff.mp hf
    refine ((Fragment.Sound.commaList ?_).closed (by decide)).text (by decide)
    refine Expr.sound_of_forall₂ hd hfs fun t ht ↦ hT t (List.mem_append_right _ ?_)
    obtain ⟨e, he, ht⟩ := List.mem_flatMap.mp ht
    exact List.mem_flatMap.mpr ⟨e, List.mem_flatten.mpr ⟨row, hrow, he⟩, ht⟩
  have hcolumns := sound_nameFragments fun name hname ↦
    hT (.name name)
      (List.mem_append_left _ (List.mem_map_of_mem (List.mem_cons_of_mem s.table hname)))
  have htable : Fragment.Sound T [.name s.table] := Fragment.Sound.single (hT _ (by simp [texts]))
  refine Fragment.Sound.text (by decide) (htable.append (Fragment.Tail.text (by decide) ?_))
  exact (Fragment.Sound.commaList hcolumns).append
    (Fragment.Tail.text (by decide) (Fragment.Sound.commaList hvalues))

theorem binds_fragment {s : Insert} (h : s.fragment d = .ok f) :
    f.binds = s.expressions.flatMap Expr.binds := by
  obtain ⟨-, -, -, -, -, rows, hrows, rfl⟩ := fragment_eq_ok_iff.mp h
  have hvalues : rows.flatMap Fragment.binds = s.rows.flatMap fun row ↦ row.flatMap Expr.binds := by
    refine flatMap_eq_of_forall₂ hrows ?_
    intro row _ f hf
    obtain ⟨fs, hfs, rfl⟩ := rowFragment_eq_ok_iff.mp hf
    simp [Expr.binds_of_forall₂ hfs]
  have hflat :
      s.expressions.flatMap Expr.binds = s.rows.flatMap fun row ↦ row.flatMap Expr.binds := by
    rw [expressions, List.flatten_eq_flatMap, List.flatMap_assoc]
    rfl
  simp [hvalues, hflat]

end Insert

/-! ## Selecting -/

namespace Select

/-- The expressions of a selection in the order of its text. -/
def expressions (s : Select) : List Expr :=
  s.items ++ s.condition.operands ++ s.grouping ++ s.ordering.map Prod.fst

/-- What a selection puts between quotes. -/
def texts (s : Select) : List QuotedText :=
  s.tables.map .name ++ s.expressions.flatMap Expr.texts

theorem orderFragment_eq_ok_iff {item : Expr × Direction} :
    orderFragment d item = .ok f ↔ ∃ g, item.1.fragment d .operand = .ok g ∧
      f = g ++ [.text " ", .text item.2.keyword] := by
  simp only [orderFragment, bind_eq_ok_iff, pure_eq_ok_iff, @eq_comm _ f]

theorem conditionFragment_eq_ok_iff {g : WhereGroup} :
    conditionFragment d g = .ok f ↔
      (g.children = [] ∧ f = []) ∨
        (g.children ≠ [] ∧ ∃ h, g.fragment d = .ok h ∧ f = .text " WHERE " :: h) := by
  rw [conditionFragment, WhereGroup.isEmpty]
  by_cases hempty : g.children = []
  · rw [if_pos (by simp [hempty]), Except.ok.injEq]
    simp only [hempty, ne_eq, not_true_eq_false, true_and, false_and, or_false, @eq_comm _ f]
  · rw [if_neg (by simpa using hempty)]
    simp only [hempty, bind_eq_ok_iff, pure_eq_ok_iff, @eq_comm _ f, false_and, false_or, ne_eq,
      not_false_eq_true, true_and]

theorem fragment_eq_ok_iff {s : Select} :
    s.fragment d = .ok f ↔ s.items ≠ [] ∧ ¬(s.offset.isSome ∧ s.limit.isNone) ∧
      (∀ name ∈ s.tables, name ≠ "") ∧
      ∃ items condition grouping ordering,
        List.Forall₂ (fun e f ↦ e.fragment d .selectItem = .ok f) s.items items ∧
        conditionFragment d s.condition = .ok condition ∧
        List.Forall₂ (fun e f ↦ e.fragment d .operand = .ok f) s.grouping grouping ∧
        List.Forall₂ (fun item f ↦ orderFragment d item = .ok f) s.ordering ordering ∧
        f = .text "SELECT " :: (Fragment.optional s.distinct "DISTINCT "
          ++ (Fragment.commaList items
          ++ (Fragment.clause " FROM " (nameFragments s.tables)
          ++ (condition
          ++ (Fragment.clause " GROUP BY " grouping
          ++ (Fragment.clause " ORDER BY " ordering
          ++ (numberFragment " LIMIT " s.limit
          ++ numberFragment " OFFSET " s.offset))))))) := by
  simp only [fragment, throw_bind, ite_throw_eq_ok_iff, bind_eq_ok_iff, pure_eq_ok_iff,
    Expr.fragments_eq_ok_iff, mapM_ofName_eq_ok_iff, @mapM_eq_ok_iff _ _ _ (orderFragment d),
    List.isEmpty_iff, Bool.and_eq_true, List.append_assoc]
  constructor
  · rintro ⟨hitems, hoffset, items, hi, _, ⟨hnames, rfl⟩, condition, hc, grouping, hg, ordering, ho,
      rfl⟩
    exact ⟨hitems, hoffset, hnames, items, condition, grouping, ordering, hi, hc, hg, ho, rfl⟩
  · rintro ⟨hitems, hoffset, hnames, items, condition, grouping, ordering, hi, hc, hg, ho, rfl⟩
    exact ⟨hitems, hoffset, items, hi, _, ⟨hnames, rfl⟩, condition, hc, grouping, hg, ordering, ho,
      rfl⟩

theorem isText_toString (n : Nat) : isText (toString n) := by
  rw [isText, Nat.toString_eq_ofList_toDigits, String.toList_ofList]
  exact List.all_eq_true.mpr fun c hc ↦
    isTextChar_of_isAlphanum (isAlphanum_of_isDigit (isDigit_of_mem_toDigits hc))

theorem tail_numberFragment {keyword : String} (hs : isTailText keyword)
    (n : Option UInt64) : (numberFragment keyword n).Tail T := by
  cases n with
  | none => exact Fragment.Tail.nil
  | some n => exact Fragment.Tail.text hs (Fragment.Sound.nil.text (isText_toString _))

theorem isText_keyword (direction : Direction) : isText direction.keyword := by
  cases direction <;> decide

theorem sound_fragment (hd : d.Regular) {s : Select} (h : s.fragment d = .ok f)
    (hT : ∀ t ∈ s.texts, t ∈ T) : f.Sound T := by
  obtain ⟨-, -, -, items, condition, grouping, ordering, hi, hc, hg, ho, rfl⟩ :=
    fragment_eq_ok_iff.mp h
  have hexpr {es : List Expr} (hes : ∀ e ∈ es, e ∈ s.expressions) :
      ∀ t ∈ es.flatMap Expr.texts, t ∈ T := by
    intro t ht
    obtain ⟨e, he, ht⟩ := List.mem_flatMap.mp ht
    exact hT t (List.mem_append_right _ (List.mem_flatMap.mpr ⟨e, hes e he, ht⟩))
  have hitems := Expr.sound_of_forall₂ hd hi (hexpr fun e he ↦ by simp [expressions, he])
  have hgrouping := Expr.sound_of_forall₂ hd hg (hexpr fun e he ↦ by simp [expressions, he])
  have htables := sound_nameFragments fun name hname ↦
    hT (.name name) (List.mem_append_left _ (List.mem_map_of_mem hname))
  have hordering : ∀ f ∈ ordering, f.Sound T := by
    refine forall_mem_of_forall₂ ho ?_
    intro item hitem f hf
    obtain ⟨g, hg, rfl⟩ := orderFragment_eq_ok_iff.mp hf
    refine (Expr.sound_fragment hd hg fun t ht ↦ ?_).append (Fragment.Tail.text (by decide)
      (Fragment.Sound.nil.text (isText_keyword _)))
    have hmem : item.1 ∈ s.expressions :=
      List.mem_append_right _ (List.mem_map_of_mem hitem)
    exact hT t (List.mem_append_right _ (List.mem_flatMap.mpr ⟨item.1, hmem, ht⟩))
  have hcondition : condition.Tail T := by
    rcases conditionFragment_eq_ok_iff.mp hc with ⟨-, rfl⟩ | ⟨-, g, hg, rfl⟩
    · exact Fragment.Tail.nil
    · exact Fragment.Tail.text (by decide)
        (WhereGroup.sound_fragment hd hg (hexpr fun e he ↦ by simp [expressions, he]))
  refine Fragment.Sound.text (by decide) (Fragment.Sound.optional (by decide) ?_)
  refine (Fragment.Sound.commaList hitems).append ?_
  refine (Fragment.Tail.clause (by decide) htables).append ?_
  refine hcondition.append ?_
  refine (Fragment.Tail.clause (by decide) hgrouping).append ?_
  refine (Fragment.Tail.clause (by decide) hordering).append ?_
  exact (tail_numberFragment (by decide) _).append
    (tail_numberFragment (by decide) _)

theorem binds_numberFragment (keyword : String) (n : Option UInt64) :
    (numberFragment keyword n).binds = [] := by
  cases n <;> rfl

theorem binds_fragment {s : Select} (h : s.fragment d = .ok f) :
    f.binds = s.expressions.flatMap Expr.binds := by
  obtain ⟨-, -, -, items, condition, grouping, ordering, hi, hc, hg, ho, rfl⟩ :=
    fragment_eq_ok_iff.mp h
  have hcondition : condition.binds = s.condition.operands.flatMap Expr.binds := by
    rcases conditionFragment_eq_ok_iff.mp hc with ⟨hempty, rfl⟩ | ⟨-, g, hg, rfl⟩
    · simp [WhereGroup.operands, Predicate.operandsAll, hempty]
    · rw [Fragment.binds_text, WhereGroup.binds_fragment hg]
  have hordering :
      ordering.flatMap Fragment.binds = s.ordering.flatMap fun item ↦ item.1.binds := by
    refine flatMap_eq_of_forall₂ ho ?_
    intro item _ f hf
    obtain ⟨g, hg, rfl⟩ := orderFragment_eq_ok_iff.mp hf
    simp [Expr.binds_fragment hg]
  simp [expressions, Expr.binds_of_forall₂ hi, Expr.binds_of_forall₂ hg, hcondition, hordering,
    binds_numberFragment, List.flatMap_map]

end Select

end SqlBuilder
