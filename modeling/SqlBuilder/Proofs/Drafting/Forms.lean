import SqlBuilder.Proofs.Drafting.Refusal
import SqlBuilder.Proofs.Execution.Delivery
import SqlBuilder.Proofs.Spelling.Numbering

/-!
# The two forms of an alteration

An alteration is written as one query with all changes or as one query for each change. Both forms
are put together from the same changes, written once each behind the same name of a table, so they
agree on the text, on the order, and on the fault that comes first. They part in one point only:
where a dialect makes one change per statement, several changes have no common query.
-/

namespace SqlBuilder

open BuildError

variable {d : Dialect} {f : Fragment}

/-! ## Lists of fragments without bound values -/

/-- Without bound values, fragments between commas read as each reads alone. -/
theorem Fragment.chars_commaList_of_binds_eq_nil {fs : List Fragment}
    (h : ∀ f ∈ fs, f.binds = []) (before : Nat) :
    (commaList fs).chars d before = ", ".toList.intercalate (fs.map (chars d before)) := by
  rw [commaList, chars_joined, charsEach_of_binds_eq_nil h]

theorem Fragment.binds_commaList_eq_nil {fs : List Fragment} (h : ∀ f ∈ fs, f.binds = []) :
    (commaList fs).binds = [] := by
  rw [binds_commaList]
  exact List.flatMap_eq_nil_iff.mpr h

theorem Fragment.sql_commaList {fs : List Fragment} (h : ∀ f ∈ fs, f.binds = []) (d : Dialect) :
    ((commaList fs).toQuery d).sql = ", ".intercalate (fs.map fun f ↦ (f.toQuery d).sql) := by
  rw [← String.toList_inj, String.toList_intercalate, List.map_map, toQuery, String.toList_ofList,
    chars_commaList_of_binds_eq_nil h]
  refine congrArg (List.intercalate _) (List.map_congr_left fun f _ ↦ ?_)
  exact String.toList_ofList.symm

namespace AlterTable

/-! ## The changes -/

/-- The changes as they are written behind the table. The name of the table is looked at first. -/
def changes (d : Dialect) (s : AlterTable) : Except BuildError (List Fragment) := do
  discard (Fragment.ofName s.table)
  s.operations.mapM (·.fragment d)

/-- What is written of the changes, behind the table. -/
def behindTable (table : String) (f : Fragment) : Fragment :=
  .text "ALTER TABLE " :: .name table :: .text " " :: f

theorem statement_of_ne {table : String} (h : table ≠ "") (ops : List AlterOperation) :
    statement d table ops =
      (fun fs ↦ behindTable table (Fragment.commaList fs)) <$> ops.mapM (·.fragment d) := by
  rw [statement, Fragment.ofName, if_neg h]
  rfl

theorem statement_singleton {table : String} (h : table ≠ "") (op : AlterOperation) :
    statement d table [op] = behindTable table <$> op.fragment d := by
  rw [statement_of_ne h]
  simp only [List.mapM_cons, List.mapM_nil, map_eq_pure_bind, bind_assoc, pure_bind]
  rfl

theorem changes_of_empty {s : AlterTable} (h : s.table = "") :
    changes d s = .error .emptyIdentifier := by
  rw [changes, h]
  rfl

theorem changes_of_ne {s : AlterTable} (h : s.table ≠ "") :
    changes d s = s.operations.mapM (·.fragment d) := by
  rw [changes, Fragment.ofName, if_neg h]
  rfl

/-- The common query has all changes behind the table. -/
theorem statement_eq (d : Dialect) (s : AlterTable) :
    statement d s.table s.operations =
      (fun fs ↦ behindTable s.table (Fragment.commaList fs)) <$> changes d s := by
  by_cases h : s.table = ""
  · rw [changes_of_empty h, h]
    rfl
  · rw [changes_of_ne h, statement_of_ne h]

/-- The other queries have one of the changes behind the table each. -/
theorem mapM_statement {s : AlterTable} (hs : s.operations ≠ []) :
    (s.operations.mapM fun op ↦ statement d s.table [op]) =
      List.map (behindTable s.table) <$> changes d s := by
  by_cases h : s.table = ""
  · obtain ⟨op, ops, hops⟩ := List.exists_cons_of_ne_nil hs
    rw [changes_of_empty h, h, hops, List.mapM_cons]
    rfl
  · rw [changes_of_ne h, ← mapM_map_eq]
    simp only [statement_singleton h]

theorem failsOnly_changes (d : Dialect) (s : AlterTable) :
    FailsOnly (changes d s) (IsRefusal d) := by
  by_cases h : s.table = ""
  · rw [changes_of_empty h]
    exact failsOnly_error .emptyIdentifier
  · rw [changes_of_ne h]
    exact .mapM fun op _ ↦ op.failsOnly_fragment d

/-! ## Texts -/

/-- What stands in front of the changes. -/
def opening (d : Dialect) (table : String) : String :=
  "ALTER TABLE " ++ d.quoteIdentifier table ++ " "

/-- The texts of the changes, in their order. -/
def Reads (d : Dialect) (ops : List AlterOperation) (texts : List String) : Prop :=
  List.Forall₂ (fun op text ↦ ∃ f, op.fragment d = .ok f ∧ text = (f.toQuery d).sql) ops texts

/-- The query of all changes. -/
def wholeQuery (d : Dialect) (table : String) (texts : List String) : Query :=
  ⟨opening d table ++ ", ".intercalate texts, []⟩

/-- The queries of single changes. -/
def eachQuery (d : Dialect) (table : String) (texts : List String) : List Query :=
  texts.map fun text ↦ ⟨opening d table ++ text, []⟩

theorem toQuery_behindTable (hf : f.binds = []) (d : Dialect) (table : String) :
    (behindTable table f).toQuery d = ⟨opening d table ++ (f.toQuery d).sql, []⟩ := by
  simp only [behindTable, Fragment.toQuery, Fragment.chars, Fragment.binds_text,
    Fragment.binds_name, hf, opening, Query.mk.injEq, and_true, ← String.toList_inj,
    String.toList_append, String.toList_ofList, List.append_assoc]

theorem toQuery_commaList {fs : List Fragment} (h : ∀ f ∈ fs, f.binds = []) (d : Dialect)
    (table : String) :
    (behindTable table (Fragment.commaList fs)).toQuery d =
      wholeQuery d table (fs.map fun f ↦ (f.toQuery d).sql) := by
  rw [toQuery_behindTable (Fragment.binds_commaList_eq_nil h), Fragment.sql_commaList h, wholeQuery]

/-- What the changes give is read off their texts in both forms. -/
theorem reads_of_changes {s : AlterTable} {fs : List Fragment} (h : changes d s = .ok fs) :
    ∃ texts, Reads d s.operations texts ∧
      (behindTable s.table (Fragment.commaList fs)).toQuery d = wholeQuery d s.table texts ∧
      fs.map (fun f ↦ (behindTable s.table f).toQuery d) = eachQuery d s.table texts := by
  have hne : s.table ≠ "" := by
    intro hempty
    rw [changes_of_empty hempty] at h
    exact nomatch h
  rw [changes_of_ne hne] at h
  have hops := mapM_eq_ok_iff.mp h
  have hbinds : ∀ f ∈ fs, f.binds = [] :=
    forall_mem_of_forall₂ hops fun _ _ _ hf ↦ AlterOperation.binds_fragment hf
  refine ⟨fs.map fun f ↦ (f.toQuery d).sql, ?_, toQuery_commaList hbinds d s.table, ?_⟩
  · exact List.forall₂_map_right_iff.mpr (hops.imp fun _ f hf ↦ ⟨f, hf, rfl⟩)
  · rw [eachQuery, List.map_map]
    exact List.map_congr_left fun f hf ↦ toQuery_behindTable (hbinds f hf) d s.table

/-! ## Both forms together -/

/-- The dialect does not write so many changes as one query. -/
def TooMany (d : Dialect) (s : AlterTable) : Prop :=
  1 < s.operations.length ∧ ¬d.batchesAlter

instance (s : AlterTable) : Decidable (TooMany d s) :=
  inferInstanceAs (Decidable (_ ∧ _))

/-- What an alteration gives as one query and as one query for each change. -/
inductive Forms (d : Dialect) (s : AlterTable) :
    Except BuildError Query → Except BuildError (List Query) → Prop
  | both (texts : List String) : Reads d s.operations texts →
    s.operations.length = 1 ∨ d.batchesAlter →
    Forms d s (.ok (wholeQuery d s.table texts)) (.ok (eachQuery d s.table texts))
  | fault (e : BuildError) : NotCounted d e → Forms d s (.error e) (.error e)
  | onlyEach (texts : List String) : Reads d s.operations texts → TooMany d s →
    Forms d s (.error (.batchAlterUnsupported d.name s.operations.length))
      (.ok (eachQuery d s.table texts))
  | twoFaults (e : BuildError) : NotCounted d e → TooMany d s →
    Forms d s (.error (.batchAlterUnsupported d.name s.operations.length)) (.error e)

theorem fragment_of_ne {s : AlterTable} (hs : s.operations ≠ []) :
    s.fragment d =
      if TooMany d s then .error (.batchAlterUnsupported d.name s.operations.length)
      else statement d s.table s.operations := by
  rw [fragment, ensureOperations, List.isEmpty_eq_false_iff.mpr hs]
  simp only [throw_bind]
  rfl

theorem toQuery_of_ne {s : AlterTable} (hs : s.operations ≠ []) (hmany : ¬TooMany d s) :
    Statement.toQuery d s =
      (fun fs ↦ (behindTable s.table (Fragment.commaList fs)).toQuery d) <$> changes d s := by
  rw [Statement.toQuery_of_fragment (a := s) (fragment_of_ne hs), if_neg hmany, statement_eq]
  simp only [map_eq_pure_bind, bind_assoc, pure_bind]

theorem toQuery_of_tooMany {s : AlterTable} (hmany : TooMany d s) :
    Statement.toQuery d s = .error (.batchAlterUnsupported d.name s.operations.length) := by
  have hs : s.operations ≠ [] := List.ne_nil_of_length_pos (Nat.zero_lt_of_lt hmany.1)
  rw [Statement.toQuery_of_fragment (a := s) (fragment_of_ne hs), if_pos hmany]
  rfl

theorem toQueries_of_ne {s : AlterTable} (hs : s.operations ≠ []) :
    s.toQueries d =
      List.map (fun f ↦ (behindTable s.table f).toQuery d) <$> changes d s := by
  have hensured : s.ensureOperations = .ok () := by
    rw [ensureOperations, List.isEmpty_eq_false_iff.mpr hs]
    rfl
  simp only [toQueries_eq, mapM_statement hs, hensured, ok_bind, map_eq_pure_bind, bind_assoc,
    pure_bind, List.map_map]
  rfl

theorem forms (d : Dialect) (s : AlterTable) :
    Forms d s (Statement.toQuery d s) (s.toQueries d) := by
  by_cases hs : s.operations = []
  · have hensured : s.ensureOperations = .error (.noColumns .alterTable) := by
      rw [ensureOperations, hs]
      rfl
    have hfragment : s.fragment d = .error (.noColumns .alterTable) := by
      rw [fragment, hensured]
      rfl
    have hwhole : Statement.toQuery d s = .error (.noColumns .alterTable) :=
      Statement.toQuery_of_fragment (a := s) hfragment
    have heach : s.toQueries d = .error (.noColumns .alterTable) := by
      rw [toQueries, hensured]
      rfl
    rw [hwhole, heach]
    exact .fault _ ((notBatch_noColumns _).notCounted d)
  rw [toQueries_of_ne hs]
  by_cases hmany : TooMany d s
  · rw [toQuery_of_tooMany hmany]
    cases hchanges : changes d s with
    | ok fs =>
      obtain ⟨texts, hreads, -, heach⟩ := reads_of_changes hchanges
      change Forms d s _ (.ok (fs.map _))
      rw [heach]
      exact .onlyEach texts hreads hmany
    | error e => exact .twoFaults e (failsOnly_changes d s e hchanges).notCounted hmany
  · rw [toQuery_of_ne hs hmany]
    cases hchanges : changes d s with
    | ok fs =>
      obtain ⟨texts, hreads, hwhole, heach⟩ := reads_of_changes hchanges
      change Forms d s (.ok ((behindTable s.table (Fragment.commaList fs)).toQuery d))
        (.ok (fs.map _))
      rw [hwhole, heach]
      refine .both texts hreads ?_
      have hpos : 0 < s.operations.length := List.length_pos_iff.mpr hs
      rw [TooMany, not_and_not_right] at hmany
      rcases Nat.lt_or_ge 1 s.operations.length with hlt | hle
      · exact Or.inr (hmany hlt)
      · exact Or.inl (Nat.le_antisymm hle hpos)
    | error e => exact .fault e (failsOnly_changes d s e hchanges).notCounted

namespace Forms

variable {s : AlterTable} {whole : Except BuildError Query}
  {each : Except BuildError (List Query)}

theorem whole_iff (h : Forms d s whole each) :
    (∃ q, whole = .ok q) ↔
      (∃ qs, each = .ok qs) ∧ (s.operations.length = 1 ∨ d.batchesAlter) := by
  cases h with
  | both texts _ hn => exact iff_of_true ⟨_, rfl⟩ ⟨⟨_, rfl⟩, hn⟩
  | fault e _ => simp
  | onlyEach texts _ hmany =>
    refine iff_of_false (by simp) fun h ↦ ?_
    rcases h.2 with hone | hbatch
    · exact absurd hone (Nat.ne_of_gt hmany.1)
    · exact hmany.2 hbatch
  | twoFaults e _ _ => simp

theorem texts {qs : List Query} (h : Forms d s whole (.ok qs)) :
    ∃ texts, Reads d s.operations texts ∧ qs = eachQuery d s.table texts ∧
      ∀ q, whole = .ok q → q = wholeQuery d s.table texts := by
  cases h with
  | both texts hreads _ => exact ⟨texts, hreads, rfl, fun q hq ↦ (Except.ok.inj hq).symm⟩
  | onlyEach texts hreads _ => exact ⟨texts, hreads, rfl, nofun⟩

end Forms

/-! ## Both forms of a draft -/

section

variable {σ ρ ε : Type} [Connection σ ρ ε] {db : Database σ} {table : String}
  {cs : List (Call AlterOperation AlterCall)} {b : Draft AlterTable}

/-- The connection, and not the builder, is what stops statements that are handed over. -/
theorem sendEach_ne_build (db : Database σ) (table : String) (qs : List Query) (e : BuildError) :
    (.ofUnit (db.sendEach table qs.length 0 qs).1 : Reply ρ ε) ≠ .failed (.build e) := by
  have haccount := account_sendEach db table qs
  intro hbuild
  rcases haccount.complete with hall | ⟨n, x, hn⟩
  · rw [(haccount.done hall).1] at hbuild
    exact nomatch hbuild
  · rcases Nat.eq_zero_or_pos n with rfl | hpos
    · rw [(haccount.refused x hn).1] at hbuild
      exact nomatch hbuild
    · rw [(haccount.applied n x hpos hn).1] at hbuild
      exact nomatch hbuild

/-- A dialect that answers with a number of changes in the place of a literal is believed, though
nothing was counted. -/
example :
    (({ content := { table := "t" } } : Draft AlterTable).answers
      { dialect :=
          { Dialect.sqlite with
            ownRenderLiteral := some fun _ ↦ .error (.batchAlterUnsupported "sqlite" 7) }
        connection := ({} : DryRun) }
      [.clause (.addColumn { name := "a", dataType := .int, constraints := [.default .null] }),
        .special .operations, .special .previewEach]).1.drop 1 =
      [.operations [], .failed (.build (.batchAlterUnsupported "sqlite" 7))] := by
  rfl

end

end AlterTable

end SqlBuilder
