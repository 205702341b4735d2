import SqlBuilder.Proofs.Reading.Nesting
import SqlBuilder.Proofs.Spelling.Schema

/-!
# What stays together

Column definitions and changes are items of a list, so a definition has to stay together: no comma
in it may separate items and every parenthesis needs its partner in the definition itself. Whatever
a builder or a built-in dialect writes keeps to that. Only a custom type may fail to, because its
characters are checked one by one, and then the definition around it fails exactly where the type
does.
-/

namespace SqlBuilder

open Reading

variable {d : Dialect} {f g : Fragment}

/-- A text without parentheses and commas. -/
def isFlat (s : String) : Bool :=
  s.toList.all isFlatChar

/-- A custom type stays together; any other type does so in every built-in dialect. -/
def DataType.IsClosed (t : DataType) : Prop :=
  ∀ token, t = .custom token → Closed (plainly token.toList)

/-! ## Dialects -/

/-- A regular dialect in which only a custom type can fail to stay together. -/
structure Dialect.KeepsTogether (d : Dialect) : Prop where
  /-- The dialect is regular. -/
  regular : d.Regular
  /-- A custom type is written as its token. -/
  custom_type : ∀ token, d.typeName (.custom token) = some token
  /-- Any other type stays together. -/
  closed_type : ∀ t s, (∀ token, t ≠ .custom token) → d.typeName t = some s →
    Closed (plainly s.toList)
  /-- The keywords around a column whose type is changed are words. -/
  flat_modify : ∀ form ∈ d.alterTable.modifyColumn,
    (isFlat form.clause ∧ form.clause.toList.head?.any Char.isAlpha) ∧
      ∀ keyword ∈ form.typeKeyword, isFlat keyword

namespace Dialect

theorem isFlatChar_of_class {p : Char → Bool} {c : Char} (h : p c) (hopening : p '(' = false)
    (hclosing : p ')' = false) (hcomma : p ',' = false) : isFlatChar c := by
  simp only [isFlatChar, Bool.and_eq_true, bne_iff_ne]
  exact ⟨⟨ne_of_class h hopening, ne_of_class h hclosing⟩, ne_of_class h hcomma⟩

theorem closed_varchar (n : Nat) : Closed (plainly ("VARCHAR(" ++ toString n ++ ")").toList) := by
  have hdigits : Closed (plainly (Nat.toDigits 10 n)) :=
    .plainly (List.all_eq_true.mpr fun c hc ↦
      isFlatChar_of_class (isDigit_of_mem_toDigits hc) rfl rfl rfl)
  have hword : Closed (plainly "VARCHAR".toList) := .plainly (by decide)
  have hsplit : plainly ("VARCHAR(" ++ toString n ++ ")").toList =
      plainly "VARCHAR".toList ++
        (.plain '(' :: (plainly (Nat.toDigits 10 n) ++ [.plain ')'])) := by
    simp
  rw [hsplit]
  exact hword.append hdigits.enclosed

theorem keepsTogether_postgresql : postgresql.KeepsTogether where
  regular := regular_postgresql
  custom_type _ := rfl
  closed_type t s hcustom ht := by
    cases t with
    | custom token => exact absurd rfl (hcustom token)
    | varchar n => exact Option.some.inj ht ▸ closed_varchar _
    | _ => exact Option.some.inj ht ▸ .plainly (by decide)
  flat_modify := by decide

theorem keepsTogether_mysql : mysql.KeepsTogether where
  regular := regular_mysql
  custom_type _ := rfl
  closed_type t s hcustom ht := by
    cases t with
    | custom token => exact absurd rfl (hcustom token)
    | varchar n => exact Option.some.inj ht ▸ closed_varchar _
    | uuid => exact nomatch ht
    | _ => exact Option.some.inj ht ▸ .plainly (by decide)
  flat_modify := by decide

theorem keepsTogether_sqlite : sqlite.KeepsTogether where
  regular := regular_sqlite
  custom_type _ := rfl
  closed_type t s hcustom ht := by
    cases t with
    | custom token => exact absurd rfl (hcustom token)
    | uuid | json => exact nomatch ht
    | _ => exact Option.some.inj ht ▸ .plainly (by decide)
  flat_modify := by decide

theorem keepsTogether_of_mem_builtIn (h : d ∈ builtIn) : d.KeepsTogether := by
  simp only [builtIn, List.mem_cons, List.not_mem_nil, or_false] at h
  obtain rfl | rfl | rfl := h
  · exact keepsTogether_postgresql
  · exact keepsTogether_mysql
  · exact keepsTogether_sqlite

/-- A type that is written stays together exactly if its custom token does. -/
theorem KeepsTogether.closed_typeName_iff (hd : d.KeepsTogether) {t : DataType} {s : String}
    (h : d.resolveType t = .ok s) : Closed (plainly s.toList) ↔ t.IsClosed := by
  obtain ⟨hname, -⟩ := typeName_of_resolveType h
  by_cases ht : ∃ token, t = .custom token
  · obtain ⟨token, rfl⟩ := ht
    obtain rfl := Option.some.inj ((hd.custom_type token).symm.trans hname)
    exact ⟨fun h token' htoken ↦ DataType.custom.inj htoken ▸ h, fun h ↦ h token rfl⟩
  · have hcustom := not_exists.mp ht
    exact iff_of_true (hd.closed_type t s hcustom hname) fun token htoken ↦
      absurd htoken (hcustom token)

end Dialect

theorem Dialect.LiteralWord.all_isFlatChar {cs : List Char} (h : LiteralWord cs) :
    cs.all isFlatChar := by
  rw [List.all_eq_true]
  intro c hc
  cases h with
  | numeral h => exact isFlatChar_of_class (h.chars c hc) rfl rfl rfl
  | letters _ h => exact isFlatChar_of_class (List.all_eq_true.mp h c hc) rfl rfl rfl
  | wildcard =>
    obtain rfl := List.mem_singleton.mp hc
    rfl

/-! ## Columns -/

/-- Without bound values, the regions of fragments next to each other are those of each alone. -/
theorem Fragment.regions_append_of_binds (hf : f.binds = []) (g : Fragment) :
    (f ++ g).regions d 0 = f.regions d 0 ++ g.regions d 0 := by
  rw [regions_append, hf]
  rfl

theorem Literal.closed (hd : d.Regular) {l : Literal} (hl : l.ensureFinite = .ok ())
    (position : Nat) : Closed (Piece.regions d position (.literal l)) := by
  by_cases hstring : ∃ s, l = .string s
  · obtain ⟨s, rfl⟩ := hstring
    exact .quoted _
  · rw [Piece.regions_literal (not_exists.mp hstring)]
    exact .plainly (hd.literalWord hl (not_exists.mp hstring)).all_isFlatChar

theorem ReferentialAction.closed_fragment {keywords : String} (hkeywords : isFlat keywords)
    (action : Option ReferentialAction) :
    Closed ((ReferentialAction.fragment keywords action).regions d 0) := by
  cases action with
  | none => exact .nil
  | some action =>
    have haction : isFlat action.keywords := by cases action <;> decide
    exact (Closed.plainly hkeywords).append ((Closed.plainly haction).append .nil)

theorem ForeignKey.closed_fragment {key : ForeignKey} (h : key.fragment = .ok f) :
    Closed (f.regions d 0) := by
  obtain ⟨-, -, rfl⟩ := fragment_eq_ok_iff.mp h
  have hdelete : Closed ((ReferentialAction.fragment " ON DELETE " key.onDelete).regions d 0) :=
    ReferentialAction.closed_fragment (by decide) _
  have hupdate : Closed ((ReferentialAction.fragment " ON UPDATE " key.onUpdate).regions d 0) :=
    ReferentialAction.closed_fragment (by decide) _
  have hactions := hdelete.append hupdate
  rw [← Fragment.regions_append_of_binds
    (ReferentialAction.plain_fragment (T := Set.univ) (by decide) _).2] at hactions
  have hblank : Closed (plainly [' ']) := .plainly (by decide)
  have hcolumn : Closed (.plain '(' :: ([.quoted (.name key.column)] ++ [.plain ')'])) :=
    (Closed.quoted _).enclosed
  have hopening : " (".toList = [' ', '('] := by simp
  have hclosing : ")".toList = [')'] := by simp
  simp only [Fragment.regions_name, Fragment.regions_text, hopening, hclosing]
  exact (Closed.quoted (.name key.table)).append (hblank.append (hcolumn.append hactions))

theorem ColumnConstraint.closed_fragment (hd : d.Regular) {k : ColumnConstraint}
    (h : k.fragment d = .ok f) : Closed (f.regions d 0) := by
  cases k with
  | primaryKey =>
    obtain rfl := Except.ok.inj h
    exact (Closed.plainly (by decide)).append .nil
  | notNull =>
    obtain rfl := Except.ok.inj h
    exact (Closed.plainly (by decide)).append .nil
  | unique =>
    obtain rfl := Except.ok.inj h
    exact (Closed.plainly (by decide)).append .nil
  | default l =>
    obtain ⟨g, hg, rfl⟩ := bind_pure_eq_ok_iff.mp h
    obtain ⟨-, hfinite, rfl⟩ := (Literal.fragment_eq_ok_iff_of_usual hd.renderLiteral_usual).mp hg
    exact (Closed.plainly (by decide)).append ((Literal.closed hd hfinite _).append .nil)
  | references key =>
    obtain ⟨g, hg, rfl⟩ := bind_pure_eq_ok_iff.mp h
    exact (Closed.plainly (by decide)).append (ForeignKey.closed_fragment hg)

theorem Fragment.closed_flatten {fs : List Fragment}
    (h : ∀ f ∈ fs, f.binds = [] ∧ Closed (f.regions d 0)) :
    Closed (Fragment.regions d 0 fs.flatten) := by
  induction fs with
  | nil => exact .nil
  | cons f fs ih =>
    obtain ⟨⟨hbinds, hf⟩, hfs⟩ := List.forall_mem_cons.mp h
    rw [List.flatten_cons, regions_append_of_binds hbinds]
    exact hf.append (ih hfs)

namespace ColumnDefinition

/-- A column definition stays together exactly if its type does. -/
theorem closed_iff (hd : d.KeepsTogether) {c : ColumnDefinition} (h : c.fragment d = .ok f) :
    Closed (f.regions d 0) ↔ c.dataType.IsClosed := by
  obtain ⟨typeName, constraints, htype, -, hks, rfl⟩ := fragment_eq_ok_iff.mp h
  have hconstraints : Closed (Fragment.regions d 0 constraints.flatten) :=
    Fragment.closed_flatten (forall_mem_of_forall₂ hks fun k _ f hf ↦
      ⟨(ColumnConstraint.plain_fragment (T := Set.univ) hd.regular hf fun _ _ ↦ trivial).2,
        ColumnConstraint.closed_fragment hd.regular hf⟩)
  have hname : Closed (.quoted (.name c.name) :: plainly " ".toList) :=
    (Closed.quoted _).append (.plainly (by decide))
  rw [← hd.closed_typeName_iff htype]
  exact Closed.between_iff hname hconstraints

/-- The first region of a column definition. -/
theorem exists_regions_eq_cons {c : ColumnDefinition} (h : c.fragment d = .ok f) :
    ∃ rs, f.regions d 0 = .quoted (.name c.name) :: rs := by
  obtain ⟨typeName, constraints, -, -, -, rfl⟩ := fragment_eq_ok_iff.mp h
  exact ⟨_, rfl⟩

end ColumnDefinition

/-! ## Changes -/

namespace AlterOperation

/-- A custom type in the change stays together. -/
def IsClosed : AlterOperation → Prop
  | addColumn c => c.dataType.IsClosed
  | dropColumn _ => True
  | modifyColumn _ t => t.IsClosed

/-- A change of a type stays together exactly if the new type does. -/
theorem closed_modify_iff {clause name typeName : String} {keyword : Fragment}
    (hclause : isFlat clause) (hkeyword : Closed (keyword.regions d 0))
    (hbinds : keyword.binds = []) :
    Closed (Fragment.regions d 0 (.text clause :: .text " " ::
        ([.name name] ++ keyword ++ [.text " ", .text typeName]))) ↔
      Closed (plainly typeName.toList) := by
  have hblank : Closed (plainly " ".toList) := .plainly (by decide)
  have hcolumn : Closed (plainly clause.toList ++
      (plainly " ".toList ++ ([.quoted (.name name)] ++ keyword.regions d 0))) :=
    (Closed.plainly hclause).append (hblank.append ((Closed.quoted _).append hkeyword))
  have hregions : Fragment.regions d 0 (.text clause :: .text " " ::
        ([.name name] ++ keyword ++ [.text " ", .text typeName])) =
      (plainly clause.toList ++
        (plainly " ".toList ++ ([.quoted (.name name)] ++ keyword.regions d 0)) ++
          plainly " ".toList) ++ plainly typeName.toList := by
    simp [Fragment.regions_append, hbinds]
  rw [hregions]
  exact (hcolumn.append hblank).behind_iff

/-- A change stays together exactly if the type in it does. -/
theorem closed_iff (hd : d.KeepsTogether) {op : AlterOperation} (h : op.fragment d = .ok f) :
    Closed (f.regions d 0) ↔ op.IsClosed := by
  cases op with
  | addColumn c =>
    obtain ⟨g, hg, rfl⟩ := bind_pure_eq_ok_iff.mp h
    have hkeywords : Closed (plainly "ADD COLUMN ".toList) := .plainly (by decide)
    exact hkeywords.behind_iff.trans (ColumnDefinition.closed_iff hd hg)
  | dropColumn name =>
    obtain ⟨g, hg, rfl⟩ := bind_pure_eq_ok_iff.mp h
    obtain ⟨-, rfl⟩ := Fragment.ofName_eq_ok_iff.mp hg
    have hkeywords : Closed (plainly "DROP COLUMN ".toList) := .plainly (by decide)
    exact iff_of_true (hkeywords.append (.quoted _)) trivial
  | modifyColumn name t =>
    cases hform : d.alterTable.modifyColumn with
    | none => simp [fragment, hform] at h
    | some form =>
      obtain ⟨⟨hclause, -⟩, hkeyword⟩ := hd.flat_modify form hform
      simp only [fragment, hform, bind_eq_ok_iff, Fragment.ofName_eq_ok_iff, pure_eq_ok_iff] at h
      obtain ⟨typeName, htype, _, ⟨-, rfl⟩, rfl⟩ := h
      rw [IsClosed, ← hd.closed_typeName_iff htype]
      cases hk : form.typeKeyword with
      | none => exact closed_modify_iff hclause .nil rfl
      | some keyword =>
        have hblank : Closed (plainly " ".toList) := .plainly (by decide)
        have hwords : Closed (Fragment.regions d 0 [.text " ", .text keyword]) :=
          hblank.append ((Closed.plainly (hkeyword keyword hk)).append .nil)
        exact closed_modify_iff hclause hwords rfl

/-- The first region of a change is a letter. -/
theorem exists_regions_eq_cons (hd : d.KeepsTogether) {op : AlterOperation}
    (h : op.fragment d = .ok f) :
    ∃ c rs, c.isAlpha ∧ f.regions d 0 = .plain c :: rs := by
  have hletter {s : String} {g : Fragment} (hs : s.toList.head?.any Char.isAlpha) :
      ∃ c rs, c.isAlpha ∧ Fragment.regions d 0 (.text s :: g) = .plain c :: rs := by
    obtain ⟨c, hc, halpha⟩ := (Option.any_eq_true _ _).mp hs
    obtain ⟨cs, hcs⟩ := List.head?_eq_some_iff.mp hc
    refine ⟨c, plainly cs ++ g.regions d 0, halpha, ?_⟩
    rw [Fragment.regions_text, hcs]
    rfl
  cases op with
  | addColumn c =>
    obtain ⟨g, -, rfl⟩ := bind_pure_eq_ok_iff.mp h
    exact hletter (by decide)
  | dropColumn name =>
    obtain ⟨g, -, rfl⟩ := bind_pure_eq_ok_iff.mp h
    exact hletter (by decide)
  | modifyColumn name t =>
    cases hform : d.alterTable.modifyColumn with
    | none => simp [fragment, hform] at h
    | some form =>
      simp only [fragment, hform, bind_eq_ok_iff, pure_eq_ok_iff] at h
      obtain ⟨typeName, -, column, -, rfl⟩ := h
      exact hletter (hd.flat_modify form hform).1.2

end AlterOperation

end SqlBuilder
