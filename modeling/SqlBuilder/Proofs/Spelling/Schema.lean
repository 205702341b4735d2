import SqlBuilder.Proofs.Pieces.Schema
import SqlBuilder.Proofs.Spelling.Rows

/-!
# What statements about tables write

These statements hold no bound values. Between quotes they put names, and the texts that columns
have as defaults. A type is written outside quotes, so it takes a regular dialect to make them
sound.
-/

namespace SqlBuilder

open Reading

variable {T : Set QuotedText} {d : Dialect} {f : Fragment}

/-! ## Columns -/

/-- What a constraint puts between quotes. -/
def ColumnConstraint.texts : ColumnConstraint → List QuotedText
  | .default l => l.texts
  | .references key => [.name key.table, .name key.column]
  | _ => []

/-- What a column definition puts between quotes. -/
def ColumnDefinition.texts (c : ColumnDefinition) : List QuotedText :=
  .name c.name :: c.constraints.flatMap ColumnConstraint.texts

/-- A part that may stand behind anything and holds no bound value. -/
def Fragment.Plain (T : Set QuotedText) (f : Fragment) : Prop :=
  f.Tail T ∧ f.binds = []

theorem ReferentialAction.plain_fragment {keywords : String} (hs : isTailText keywords)
    (action : Option ReferentialAction) : (ReferentialAction.fragment keywords action).Plain T := by
  cases action with
  | none => exact ⟨Fragment.Tail.nil, rfl⟩
  | some action =>
    have haction : isText action.keywords := by cases action <;> decide
    exact ⟨Fragment.Tail.text hs (Fragment.Sound.nil.text haction), rfl⟩

theorem ForeignKey.sound_fragment {key : ForeignKey} (h : key.fragment = .ok f)
    (htable : .name key.table ∈ T) (hcolumn : .name key.column ∈ T) : f.Sound T ∧ f.binds = [] := by
  obtain ⟨-, -, rfl⟩ := fragment_eq_ok_iff.mp h
  obtain ⟨hdelete, hdeleteBinds⟩ :
      (ReferentialAction.fragment " ON DELETE " key.onDelete).Plain T :=
    ReferentialAction.plain_fragment (by decide) _
  obtain ⟨hupdate, hupdateBinds⟩ :
      (ReferentialAction.fragment " ON UPDATE " key.onUpdate).Plain T :=
    ReferentialAction.plain_fragment (by decide) _
  refine ⟨?_, by simp [hdeleteBinds, hupdateBinds]⟩
  have hrest : Fragment.Tail T (.text ")" :: (ReferentialAction.fragment " ON DELETE " key.onDelete
      ++ ReferentialAction.fragment " ON UPDATE " key.onUpdate)) :=
    Fragment.Tail.text (by decide) (hdelete.append hupdate).toSound
  have hsingle {s : String} (hs : .name s ∈ T) : Fragment.Sound T [.name s] :=
    Fragment.Sound.single hs
  exact (hsingle htable).append (Fragment.Tail.text (by decide) ((hsingle hcolumn).append hrest))

theorem ColumnConstraint.plain_fragment (hd : d.Regular) {k : ColumnConstraint}
    (h : k.fragment d = .ok f) (hT : ∀ t ∈ k.texts, t ∈ T) : f.Plain T := by
  cases k with
  | primaryKey =>
    obtain rfl := Except.ok.inj h
    exact ⟨Fragment.Tail.text (by decide) Fragment.Sound.nil, rfl⟩
  | notNull =>
    obtain rfl := Except.ok.inj h
    exact ⟨Fragment.Tail.text (by decide) Fragment.Sound.nil, rfl⟩
  | unique =>
    obtain rfl := Except.ok.inj h
    exact ⟨Fragment.Tail.text (by decide) Fragment.Sound.nil, rfl⟩
  | default l =>
    obtain ⟨g, hg, rfl⟩ := bind_pure_eq_ok_iff.mp h
    obtain ⟨-, hfinite, rfl⟩ := (Literal.fragment_eq_ok_iff_of_usual hd.renderLiteral_usual).mp hg
    exact ⟨Fragment.Tail.text (by decide) (Fragment.Sound.single ⟨hfinite, hT⟩), rfl⟩
  | references key =>
    obtain ⟨g, hg, rfl⟩ := bind_pure_eq_ok_iff.mp h
    obtain ⟨hsound, hbinds⟩ :=
      ForeignKey.sound_fragment hg (hT _ (by simp [texts])) (hT _ (by simp [texts]))
    exact ⟨Fragment.Tail.text (by decide) hsound, hbinds⟩

theorem Fragment.plain_flatten {fs : List Fragment} (h : ∀ f ∈ fs, f.Plain T) :
    Fragment.Plain T fs.flatten := by
  induction fs with
  | nil => exact ⟨Tail.nil, rfl⟩
  | cons f fs ih =>
    obtain ⟨hf, hbinds⟩ := h f List.mem_cons_self
    obtain ⟨hfs, hrest⟩ := ih fun g hg ↦ h g (List.mem_cons_of_mem _ hg)
    exact ⟨hf.append hfs, by simp [hbinds, hrest]⟩

namespace ColumnDefinition

theorem sound_fragment (hd : d.Regular) {c : ColumnDefinition} (h : c.fragment d = .ok f)
    (hT : ∀ t ∈ c.texts, t ∈ T) : f.Sound T ∧ f.binds = [] := by
  obtain ⟨typeName, constraints, htype, -, hks, rfl⟩ := fragment_eq_ok_iff.mp h
  obtain ⟨hsound, hbinds⟩ := Fragment.plain_flatten (forall_mem_of_forall₂ hks fun k hk f hf ↦
    ColumnConstraint.plain_fragment hd hf fun t ht ↦
      hT t (List.mem_cons_of_mem _ (List.mem_flatMap_of_mem hk ht)))
  have hname : Fragment.Sound T [.name c.name] := Fragment.Sound.single (hT _ List.mem_cons_self)
  refine ⟨?_, by simpa using hbinds⟩
  exact hname.append (Fragment.Tail.text (by decide)
    (hsound.toSound.text (hd.isText_type _ _ htype)))

end ColumnDefinition

/-! ## Creating a table -/

namespace CreateTable

/-- What the creation of a table puts between quotes. -/
def texts (s : CreateTable) : List QuotedText :=
  .name s.table :: s.columns.flatMap ColumnDefinition.texts

theorem sound_fragment (hd : d.Regular) {s : CreateTable} (h : s.fragment d = .ok f)
    (hT : ∀ t ∈ s.texts, t ∈ T) : f.Sound T ∧ f.binds = [] := by
  obtain ⟨-, -, columns, hcs, rfl⟩ := fragment_eq_ok_iff.mp h
  have hall : ∀ f ∈ columns, f.Sound T ∧ f.binds = [] :=
    forall_mem_of_forall₂ hcs fun c hc f hf ↦ ColumnDefinition.sound_fragment hd hf fun t ht ↦
      hT t (List.mem_cons_of_mem _ (List.mem_flatMap_of_mem hc ht))
  have htable : Fragment.Sound T [.name s.table] := Fragment.Sound.single (hT _ List.mem_cons_self)
  refine ⟨Fragment.Sound.text (by decide) (Fragment.Sound.optional (by decide) ?_), ?_⟩
  · refine htable.append (Fragment.Tail.text (by decide) ?_)
    exact (Fragment.Sound.commaList fun f hf ↦ (hall f hf).1).closed (by decide)
  · simpa using fun f hf ↦ (hall f hf).2

end CreateTable

/-! ## Altering a table -/

namespace AlterOperation

/-- What a change puts between quotes. -/
def texts : AlterOperation → List QuotedText
  | addColumn c => c.texts
  | dropColumn name => [.name name]
  | modifyColumn name _ => [.name name]

theorem sound_fragment (hd : d.Regular) {op : AlterOperation} (h : op.fragment d = .ok f)
    (hT : ∀ t ∈ op.texts, t ∈ T) : f.Sound T ∧ f.binds = [] := by
  have hsingle {s : String} (hs : .name s ∈ T) : Fragment.Sound T [.name s] :=
    Fragment.Sound.single hs
  cases op with
  | addColumn c =>
    obtain ⟨g, hg, rfl⟩ := bind_pure_eq_ok_iff.mp h
    obtain ⟨hsound, hbinds⟩ := ColumnDefinition.sound_fragment hd hg hT
    exact ⟨hsound.text (by decide), hbinds⟩
  | dropColumn name =>
    obtain ⟨g, hg, rfl⟩ := bind_pure_eq_ok_iff.mp h
    obtain ⟨-, rfl⟩ := Fragment.ofName_eq_ok_iff.mp hg
    exact ⟨(hsingle (hT _ List.mem_cons_self)).text (by decide), rfl⟩
  | modifyColumn name dataType =>
    cases hform : d.alterTable.modifyColumn with
    | none => simp [fragment, hform] at h
    | some form =>
      obtain ⟨hclause, hkeyword⟩ := hd.isText_modify form hform
      simp only [fragment, hform, bind_eq_ok_iff, Fragment.ofName_eq_ok_iff, pure_eq_ok_iff] at h
      obtain ⟨typeName, htype, _, ⟨-, rfl⟩, rfl⟩ := h
      have hend : Fragment.Tail T [.text " ", .text typeName] :=
        Fragment.Tail.text (by decide)
          (Fragment.Sound.nil.text (hd.isText_type _ _ htype))
      have hname := hsingle (hT _ List.mem_cons_self)
      cases hk : form.typeKeyword with
      | none => exact ⟨((hname.append hend).text (by decide)).text hclause, rfl⟩
      | some keyword =>
        have hmiddle :
            Fragment.Tail T ([.text " ", .text keyword] ++ [.text " ", .text typeName]) :=
          Fragment.Tail.text (by decide) (hend.toSound.text (hkeyword keyword hk))
        exact ⟨((hname.append hmiddle).text (by decide)).text hclause, rfl⟩

end AlterOperation

namespace AlterTable

/-- What the alteration of a table puts between quotes. -/
def texts (s : AlterTable) : List QuotedText :=
  .name s.table :: s.operations.flatMap AlterOperation.texts

theorem statement_eq_ok_iff {table : String} {ops : List AlterOperation} :
    statement d table ops = .ok f ↔ table ≠ "" ∧
      ∃ changes, List.Forall₂ (fun op f ↦ AlterOperation.fragment d op = .ok f) ops changes ∧
        f = .text "ALTER TABLE " :: .name table :: .text " " :: Fragment.commaList changes := by
  simp only [statement, bind_eq_ok_iff, Fragment.ofName_eq_ok_iff, mapM_eq_ok_iff, pure_eq_ok_iff]
  constructor
  · rintro ⟨_, ⟨htable, rfl⟩, changes, hops, rfl⟩
    exact ⟨htable, changes, hops, rfl⟩
  · rintro ⟨htable, changes, hops, rfl⟩
    exact ⟨_, ⟨htable, rfl⟩, changes, hops, rfl⟩

theorem sound_statement (hd : d.Regular) {table : String} {ops : List AlterOperation}
    (h : statement d table ops = .ok f) (htable : .name table ∈ T)
    (hT : ∀ op ∈ ops, ∀ t ∈ op.texts, t ∈ T) : f.Sound T ∧ f.binds = [] := by
  obtain ⟨-, changes, hops, rfl⟩ := statement_eq_ok_iff.mp h
  have hall : ∀ f ∈ changes, f.Sound T ∧ f.binds = [] :=
    forall_mem_of_forall₂ hops fun op hop f hf ↦ AlterOperation.sound_fragment hd hf (hT op hop)
  have hname : Fragment.Sound T [.name table] := Fragment.Sound.single htable
  refine ⟨Fragment.Sound.text (by decide) (hname.append ?_), ?_⟩
  · exact Fragment.Tail.text (by decide)
      (Fragment.Sound.commaList fun f hf ↦ (hall f hf).1)
  · simpa using fun f hf ↦ (hall f hf).2

theorem statement_of_fragment {s : AlterTable} (h : s.fragment d = .ok f) :
    statement d s.table s.operations = .ok f := by
  simp only [fragment, bind_eq_ok_iff, throw_bind, ite_throw_eq_ok_iff] at h
  obtain ⟨_, -, -, h⟩ := h
  exact h

theorem toQueries_eq_ok_iff {s : AlterTable} {qs : List Query} :
    s.toQueries d = .ok qs ↔ s.operations ≠ [] ∧
      ∃ fs, List.Forall₂ (fun op f ↦ statement d s.table [op] = .ok f) s.operations fs ∧
        qs = fs.map (·.toQuery d) := by
  simp only [toQueries_eq, ensureOperations, bind_eq_ok_iff, mapM_eq_ok_iff, pure_eq_ok_iff,
    @eq_comm _ qs]
  by_cases hempty : s.operations = []
  · simp [hempty]
  · simp [hempty]

end AlterTable

/-! ## Creating an index -/

namespace CreateIndex

/-- What the creation of an index puts between quotes. -/
def texts (s : CreateIndex) : List QuotedText :=
  (s.name :: (s.table.toList ++ s.columns)).map .name

theorem fragment_eq_ok_iff {s : CreateIndex} :
    s.fragment = .ok f ↔ ∃ table, s.table = some table ∧ s.columns ≠ [] ∧ s.name ≠ "" ∧ table ≠ "" ∧
      (∀ name ∈ s.columns, name ≠ "") ∧
      f = .text "CREATE " :: (Fragment.optional s.unique "UNIQUE " ++ .text "INDEX "
        :: (Fragment.optional s.ifNotExists "IF NOT EXISTS " ++ .name s.name :: .text " ON "
          :: .name table :: .text " ("
          :: (Fragment.commaList (nameFragments s.columns) ++ [.text ")"]))) := by
  cases htable : s.table with
  | none => simp [fragment, htable]
  | some table =>
    simp only [fragment, htable, throw_bind, ite_throw_eq_ok_iff, bind_eq_ok_iff, pure_eq_ok_iff,
      Fragment.ofName_eq_ok_iff, ofNames_eq_ok_iff, List.isEmpty_iff, Option.some.injEq]
    constructor
    · rintro ⟨hcolumns, _, ⟨hname, rfl⟩, _, ⟨htable, rfl⟩, _, ⟨hnames, rfl⟩, rfl⟩
      exact ⟨table, rfl, hcolumns, hname, htable, hnames, by simp⟩
    · rintro ⟨_, rfl, hcolumns, hname, htable, hnames, rfl⟩
      exact ⟨hcolumns, _, ⟨hname, rfl⟩, _, ⟨htable, rfl⟩, _, ⟨hnames, rfl⟩, by simp⟩

theorem sound_fragment {s : CreateIndex} (h : s.fragment = .ok f) (hT : ∀ t ∈ s.texts, t ∈ T) :
    f.Sound T ∧ f.binds = [] := by
  obtain ⟨table, htable, -, -, -, -, rfl⟩ := fragment_eq_ok_iff.mp h
  have hsingle {s : String} (hs : .name s ∈ T) : Fragment.Sound T [.name s] :=
    Fragment.Sound.single hs
  have hcolumns : ∀ f ∈ nameFragments s.columns, f.Sound T :=
    sound_nameFragments fun name hname ↦ hT _ (by simp [texts, hname])
  refine ⟨?_, by simp⟩
  refine Fragment.Sound.text (by decide) (Fragment.Sound.optional (by decide) ?_)
  refine Fragment.Sound.text (by decide) (Fragment.Sound.optional (by decide) ?_)
  refine (hsingle (hT _ (by simp [texts]))).append (Fragment.Tail.text (by decide) ?_)
  refine (hsingle (hT _ (by simp [texts, htable]))).append (Fragment.Tail.text (by decide) ?_)
  exact (Fragment.Sound.commaList hcolumns).closed (by decide)

end CreateIndex

/-! ## Dropping a table -/

namespace DropTable

/-- What the removal of a table puts between quotes. -/
def texts (s : DropTable) : List QuotedText :=
  [.name s.table]

theorem fragment_eq_ok_iff {s : DropTable} :
    s.fragment = .ok f ↔ s.table ≠ "" ∧
      f = .text "DROP TABLE " :: (Fragment.optional s.ifExists "IF EXISTS " ++ .name s.table
        :: Fragment.optional s.cascade " CASCADE") := by
  simp only [fragment, bind_eq_ok_iff, Fragment.ofName_eq_ok_iff, pure_eq_ok_iff]
  constructor
  · rintro ⟨_, ⟨htable, rfl⟩, rfl⟩
    exact ⟨htable, by simp⟩
  · rintro ⟨htable, rfl⟩
    exact ⟨_, ⟨htable, rfl⟩, by simp⟩

theorem sound_fragment {s : DropTable} (h : s.fragment = .ok f) (hT : ∀ t ∈ s.texts, t ∈ T) :
    f.Sound T ∧ f.binds = [] := by
  obtain ⟨-, rfl⟩ := fragment_eq_ok_iff.mp h
  have htable : Fragment.Sound T [.name s.table] := Fragment.Sound.single (hT _ List.mem_cons_self)
  refine ⟨?_, by simp⟩
  refine Fragment.Sound.text (by decide) (Fragment.Sound.optional (by decide) ?_)
  exact htable.append (Fragment.Tail.optional (by decide))

end DropTable

end SqlBuilder
