import SqlBuilder.Proofs.Pieces.Schema

/-!
# Clauses that a dialect decides on

A dialect decides on every clause by itself: whether it refuses one, and why, does not depend on
what a statement holds already.

What was accepted is looked at a second time when the statement is written. Nothing can be refused
then that was accepted before, so only those faults are left for which no single clause is to blame:
a part that is missing, too many changes, or an empty name.
-/

namespace SqlBuilder

/-! ## Two kinds of faults -/

namespace BuildError

/-- The fault can be the refusal of a clause. What a dialect's own rule answers in the place of a
literal can be anything. -/
inductive IsRefusal (d : Dialect) : BuildError → Prop
  | unsupportedFeature (f : Feature) : IsRefusal d (.unsupportedFeature d.name f)
  | unsupportedAlter (k : AlterKind) : IsRefusal d (.unsupportedAlter d.name k)
  | unsupportedType (t : String) : IsRefusal d (.unsupportedType d.name t)
  | invalidTypeToken (token : String) : IsRefusal d (.invalidTypeToken token)
  | misplacedWildcard : IsRefusal d .misplacedWildcard
  | misplacedDefault : IsRefusal d .misplacedDefault
  | emptyIdentifier : IsRefusal d .emptyIdentifier
  | answered {e : BuildError} (h : d.Answers e) : IsRefusal d e

/-- The fault can show when a statement of accepted clauses is written. -/
inductive IsLate : StatementKind → BuildError → Prop
  | noColumns (k : StatementKind) : IsLate k (.noColumns k)
  | missingClause (k : StatementKind) (p : MissingPart) : IsLate k (.missingClause k p)
  | batchAlterUnsupported (dialect : String) (n : Nat) :
    IsLate .alterTable (.batchAlterUnsupported dialect n)
  | emptyIdentifier (k : StatementKind) : IsLate k .emptyIdentifier

/-- The fault is not the number of changes. -/
def NotBatch (e : BuildError) : Prop :=
  ∀ name n, e ≠ .batchAlterUnsupported name n

/-- No changes were counted: the fault is not their number, unless the dialect answers just that in
the place of a literal. -/
def NotCounted (d : Dialect) (e : BuildError) : Prop :=
  ∀ name n, e = .batchAlterUnsupported name n → d.Answers e

theorem NotBatch.notCounted {e : BuildError} (h : NotBatch e) (d : Dialect) : NotCounted d e :=
  fun name n he ↦ absurd he (h name n)

theorem notBatch_emptyIdentifier : NotBatch .emptyIdentifier := by
  simp [NotBatch]

theorem notBatch_noColumns (k : StatementKind) : NotBatch (.noColumns k) := by
  simp [NotBatch]

theorem notBatch_missingClause (k : StatementKind) (p : MissingPart) :
    NotBatch (.missingClause k p) := by
  simp [NotBatch]

/-- No clause is refused for the number of changes. -/
theorem IsRefusal.notCounted {d : Dialect} {e : BuildError} (h : e.IsRefusal d) :
    e.NotCounted d := by
  rintro name n rfl
  cases h with
  | answered h => exact h

/-- Only an alteration has a number of changes. -/
theorem IsLate.notBatch {k : StatementKind} {e : BuildError} (h : e.IsLate k)
    (hk : k ≠ .alterTable) : e.NotBatch := by
  rintro name n rfl
  cases h
  exact hk rfl

end BuildError

open BuildError

variable {d : Dialect} {P : BuildError → Prop}

theorem Fragment.failsOnly_ofName (h : P .emptyIdentifier) (name : String) :
    FailsOnly (Fragment.ofName name) P :=
  .check (fun _ ↦ h) fun _ ↦ failsOnly_ok _

theorem Fragment.failsOnly_ofNames (h : P .emptyIdentifier) (names : List String) :
    FailsOnly (Fragment.ofNames names) P :=
  (FailsOnly.mapM fun name _ ↦ failsOnly_ofName h name).bind fun _ _ ↦ failsOnly_ok _

theorem Dialect.failsOnly_resolveType (d : Dialect) (t : DataType) :
    FailsOnly (d.resolveType t) (IsRefusal d) := by
  fun_cases resolveType d t with
  | case1 token hvalid spell =>
    dsimp only [spell]
    split
    · exact failsOnly_ok _
    · exact failsOnly_error (.unsupportedType _)
  | case2 token hinvalid spell => exact failsOnly_error (.invalidTypeToken _)
  | case3 t spell =>
    dsimp only [spell]
    split
    · exact failsOnly_ok _
    · exact failsOnly_error (.unsupportedType _)

theorem Literal.failsOnly_fragment (l : Literal) (place : Place) :
    FailsOnly (l.fragment d place) (IsRefusal d) := by
  have hallowed : FailsOnly (l.ensureAllowed place) (IsRefusal d) := by
    rw [ensureAllowed.eq_def]
    split
    · exact failsOnly_ok _
    · exact failsOnly_ok _
    · exact failsOnly_error .misplacedWildcard
    · exact failsOnly_ok _
    · exact failsOnly_error .misplacedDefault
    · exact failsOnly_ok _
  have hspelled : FailsOnly (discard (d.renderLiteral l)) (IsRefusal d) := by
    intro e he
    rw [← fault?_eq_some_iff, fault?_discard, fault?_eq_some_iff] at he
    exact .answered ⟨l, he⟩
  exact hallowed.bind fun _ _ ↦ hspelled.bind fun _ _ ↦ failsOnly_ok _

theorem ColumnConstraint.failsOnly_fragment (k : ColumnConstraint) :
    FailsOnly (k.fragment d) (IsRefusal d) := by
  cases k with
  | default l => exact (l.failsOnly_fragment _).bind fun _ _ ↦ failsOnly_ok _
  | references key =>
    have hkey : FailsOnly key.fragment (IsRefusal d) :=
      (Fragment.failsOnly_ofName .emptyIdentifier _).bind fun _ _ ↦
        (Fragment.failsOnly_ofName .emptyIdentifier _).bind fun _ _ ↦ failsOnly_ok _
    exact hkey.bind fun _ _ ↦ failsOnly_ok _
  | _ => exact failsOnly_ok _

theorem ColumnDefinition.failsOnly_fragment (d : Dialect) (c : ColumnDefinition) :
    FailsOnly (c.fragment d) (IsRefusal d) :=
  (d.failsOnly_resolveType _).bind fun _ _ ↦
    (Fragment.failsOnly_ofName .emptyIdentifier _).bind fun _ _ ↦
      (FailsOnly.mapM fun k _ ↦ k.failsOnly_fragment).bind fun _ _ ↦ failsOnly_ok _

theorem AlterOperation.failsOnly_fragment (d : Dialect) (op : AlterOperation) :
    FailsOnly (op.fragment d) (IsRefusal d) := by
  cases op with
  | addColumn c => exact (c.failsOnly_fragment d).bind fun _ _ ↦ failsOnly_ok _
  | dropColumn name =>
    exact (Fragment.failsOnly_ofName .emptyIdentifier _).bind fun _ _ ↦ failsOnly_ok _
  | modifyColumn name t =>
    rw [fragment.eq_def]
    cases d.alterTable.modifyColumn with
    | none => exact failsOnly_error (.unsupportedAlter _)
    | some form =>
      exact (d.failsOnly_resolveType t).bind fun _ _ ↦
        (Fragment.failsOnly_ofName .emptyIdentifier _).bind fun _ _ ↦ failsOnly_ok _

/-! ## Clauses by themselves -/

/-- Clauses that a dialect accepts or refuses one by one. -/
class Refusable (κ : Type) where
  /-- Why the dialect refuses the clause, if it does. -/
  refusal? : Dialect → κ → Option BuildError
  /-- No clause is refused for what only a whole statement can lack. -/
  isRefusal {d : Dialect} {k : κ} {e : BuildError} (h : refusal? d k = some e) : e.IsRefusal d

export Refusable (refusal?)

/-- Why asking for a feature is refused, unless the dialect has it. -/
def Feature.refusal? (d : Dialect) (f : Feature) (has : Bool) : Option BuildError :=
  if has then none else some (.unsupportedFeature d.name f)

theorem Feature.isRefusal {f : Feature} {has : Bool} {e : BuildError}
    (h : f.refusal? d has = some e) : e.IsRefusal d := by
  cases has with
  | false =>
    obtain rfl := Option.some.inj h
    exact .unsupportedFeature _
  | true => exact nomatch h

instance : Refusable DropTable.Clause where
  refusal? d
    | .ifExists => Feature.dropTableIfExists.refusal? d d.hasIfExists
    | .cascade => Feature.dropTableCascade.refusal? d d.hasDropCascade
  isRefusal {d k e} h := by
    cases k with
    | ifExists => exact Feature.isRefusal h
    | cascade => exact Feature.isRefusal h

/-- Why a column is refused, if it is. -/
def ColumnDefinition.refusal? (d : Dialect) (c : ColumnDefinition) : Option BuildError :=
  fault? (c.validate d)

theorem ColumnDefinition.isRefusal {c : ColumnDefinition} {e : BuildError}
    (h : c.refusal? d = some e) : e.IsRefusal d := by
  rw [refusal?, validate_eq, fault?_discard] at h
  exact (c.failsOnly_fragment d).of_fault? h

instance : Refusable CreateTable.Clause where
  refusal? d
    | .ifNotExists => Feature.createTableIfNotExists.refusal? d d.hasIfNotExists
    | .column c => c.refusal? d
  isRefusal {d k e} h := by
    cases k with
    | ifNotExists => exact Feature.isRefusal h
    | column c => exact ColumnDefinition.isRefusal h

instance : Refusable CreateIndex.Clause where
  refusal? d
    | .ifNotExists => Feature.createIndexIfNotExists.refusal? d d.hasIndexIfNotExists
    | .on _ | .columns _ | .unique => none
  isRefusal {d k e} h := by
    cases k with
    | ifNotExists => exact Feature.isRefusal h
    | _ => cases h

/-- Why a change of a kind is refused: the dialect does not make such changes, or it refuses what
the change brings. -/
def AlterKind.refusal? (d : Dialect) (k : AlterKind) (makes : Bool) (brought : Option BuildError) :
    Option BuildError :=
  if makes then brought else some (.unsupportedAlter d.name k)

theorem AlterKind.refusal?_eq_none_iff {k : AlterKind} {makes : Bool}
    {brought : Option BuildError} :
    k.refusal? d makes brought = none ↔ makes ∧ brought = none := by
  cases makes with
  | false => simp [refusal?]
  | true => simp [refusal?]

theorem AlterKind.isRefusal {k : AlterKind} {makes : Bool} {brought : Option BuildError}
    {e : BuildError} (hbrought : ∀ e, brought = some e → e.IsRefusal d)
    (h : k.refusal? d makes brought = some e) : e.IsRefusal d := by
  cases makes with
  | false =>
    obtain rfl := Option.some.inj h
    exact .unsupportedAlter _
  | true => exact hbrought e h

instance : Refusable AlterOperation where
  refusal? d
    | .addColumn c => AlterKind.addColumn.refusal? d d.alterTable.addColumn (c.refusal? d)
    | .dropColumn _ => AlterKind.dropColumn.refusal? d d.alterTable.dropColumn none
    | .modifyColumn _ t =>
      AlterKind.modifyColumn.refusal? d d.alterTable.modifyColumn.isSome (fault? (d.resolveType t))
  isRefusal {d k e} h := by
    cases k with
    | addColumn c => exact AlterKind.isRefusal (fun _ ↦ ColumnDefinition.isRefusal) h
    | dropColumn name =>
      have hnothing : ∀ e, (none : Option BuildError) = some e → e.IsRefusal d := nofun
      exact AlterKind.isRefusal hnothing h
    | modifyColumn name t =>
      exact AlterKind.isRefusal (fun _ h ↦ (d.failsOnly_resolveType t).of_fault? h) h

/-! ## Clauses in a statement -/

/-- Statements that take every clause that the dialect does not refuse, whatever they hold. -/
class ClauseWise (α : Type) {κ : outParam Type} [Statement α κ] [Refusable κ] where
  /-- The statement with one more clause. -/
  extended : α → κ → α
  accept_eq (d : Dialect) (a : α) (k : κ) :
    Statement.accept d a k = (refusal? d k).elim (.ok (extended a k)) .error

theorem Feature.accept_eq {α : Type} (d : Dialect) (f : Feature) (has : Bool) (a : α) :
    (if has then .ok a else .error (.unsupportedFeature d.name f) : Except BuildError α) =
      (f.refusal? d has).elim (.ok a) .error := by
  cases has with
  | false => rfl
  | true => rfl

instance : ClauseWise DropTable where
  extended s
    | .ifExists => { s with ifExists := true }
    | .cascade => { s with cascade := true }
  accept_eq d s k := by
    cases k with
    | ifExists => exact Feature.accept_eq d _ _ _
    | cascade => exact Feature.accept_eq d _ _ _

instance : ClauseWise CreateTable where
  extended s
    | .ifNotExists => { s with ifNotExists := true }
    | .column c => { s with columns := s.columns ++ [c] }
  accept_eq d s k := by
    cases k with
    | ifNotExists => exact Feature.accept_eq d _ _ _
    | column c => exact bind_pure_eq_elim _ _

instance : ClauseWise CreateIndex where
  extended s
    | .on table => { s with table := some table }
    | .columns names => { s with columns := s.columns ++ names }
    | .unique => { s with unique := true }
    | .ifNotExists => { s with ifNotExists := true }
  accept_eq d s k := by
    cases k with
    | ifNotExists => exact Feature.accept_eq d _ _ _
    | _ => rfl

theorem AlterOperation.fault?_validate (d : Dialect) (op : AlterOperation) :
    fault? (op.validate d) = refusal? d op := by
  cases op with
  | addColumn c => exact fault?_unless _ _ _
  | dropColumn name => exact fault?_unless _ _ _
  | modifyColumn name t =>
    refine (fault?_unless _ _ _).trans ?_
    rw [fault?_discard]
    rfl

instance : ClauseWise AlterTable where
  extended s op := { s with operations := s.operations ++ [op] }
  accept_eq d s op := by
    rw [← AlterOperation.fault?_validate]
    exact bind_pure_eq_elim _ _

/-! ## What is left for the second look -/

theorem DropTable.failsOnly_fragment (s : DropTable) : FailsOnly s.fragment (IsLate .dropTable) :=
  (Fragment.failsOnly_ofName (.emptyIdentifier _) _).bind fun _ _ ↦ failsOnly_ok _

theorem ColumnDefinition.failsOnly_of_accepted {c : ColumnDefinition}
    (h : c.refusal? d = none) : FailsOnly (c.fragment d) P := by
  rw [refusal?, validate_eq, fault?_discard] at h
  exact failsOnly_of_fault?_eq_none h

theorem CreateTable.failsOnly_fragment {s : CreateTable}
    (hs : ∀ c ∈ s.columns, c.refusal? d = none) :
    FailsOnly (s.fragment d) (IsLate .createTable) := by
  have hcolumns : FailsOnly (s.columns.mapM (·.fragment d)) (IsLate .createTable) :=
    .mapM fun c hc ↦ ColumnDefinition.failsOnly_of_accepted (hs c hc)
  rw [fragment]
  simp only [throw_bind]
  refine .check (fun _ ↦ .noColumns _) fun _ ↦ ?_
  exact (Fragment.failsOnly_ofName (.emptyIdentifier _) _).bind fun _ _ ↦
    hcolumns.bind fun _ _ ↦ failsOnly_ok _

theorem CreateIndex.failsOnly_fragment (s : CreateIndex) :
    FailsOnly s.fragment (IsLate .createIndex) := by
  rw [fragment]
  cases s.table with
  | none => exact failsOnly_error (.missingClause _ _)
  | some table =>
    simp only [throw_bind]
    refine .check (fun _ ↦ .missingClause _ _) fun _ ↦ ?_
    refine (Fragment.failsOnly_ofName (.emptyIdentifier _) _).bind fun _ _ ↦ ?_
    refine (Fragment.failsOnly_ofName (.emptyIdentifier _) _).bind fun _ _ ↦ ?_
    exact (Fragment.failsOnly_ofNames (.emptyIdentifier _) _).bind fun _ _ ↦ failsOnly_ok _

/-- A change that was accepted still lacks a check of the name it holds. -/
theorem AlterOperation.failsOnly_of_accepted {op : AlterOperation} (h : refusal? d op = none)
    (k : StatementKind) : FailsOnly (op.fragment d) (IsLate k) := by
  cases op with
  | addColumn c =>
    obtain ⟨-, hvalid⟩ := AlterKind.refusal?_eq_none_iff.mp h
    exact (ColumnDefinition.failsOnly_of_accepted hvalid).bind fun _ _ ↦ failsOnly_ok _
  | dropColumn name =>
    exact (Fragment.failsOnly_ofName (.emptyIdentifier _) _).bind fun _ _ ↦ failsOnly_ok _
  | modifyColumn name t =>
    obtain ⟨hmodify, htype⟩ := AlterKind.refusal?_eq_none_iff.mp h
    obtain ⟨form, hform⟩ := Option.isSome_iff_exists.mp hmodify
    rw [fragment, hform]
    refine (failsOnly_of_fault?_eq_none htype).bind fun _ _ ↦ ?_
    exact (Fragment.failsOnly_ofName (.emptyIdentifier _) _).bind fun _ _ ↦ failsOnly_ok _

namespace AlterTable

theorem failsOnly_statement {ops : List AlterOperation} (h : ∀ op ∈ ops, refusal? d op = none)
    (table : String) : FailsOnly (statement d table ops) (IsLate .alterTable) :=
  (Fragment.failsOnly_ofName (.emptyIdentifier _) _).bind fun _ _ ↦
    (FailsOnly.mapM fun op hop ↦ AlterOperation.failsOnly_of_accepted (h op hop) _).bind fun _ _ ↦
      failsOnly_ok _

theorem failsOnly_ensureOperations (s : AlterTable) :
    FailsOnly s.ensureOperations (IsLate .alterTable) := by
  rw [ensureOperations]
  split
  · exact failsOnly_error (.noColumns _)
  · exact failsOnly_ok _

variable {s : AlterTable}

theorem failsOnly_fragment (h : ∀ op ∈ s.operations, refusal? d op = none) :
    FailsOnly (s.fragment d) (IsLate .alterTable) := by
  refine s.failsOnly_ensureOperations.bind fun _ _ ↦ ?_
  simp only [throw_bind]
  exact .check (fun _ ↦ .batchAlterUnsupported _ _) fun _ ↦ failsOnly_statement h _

theorem failsOnly_toQueries (h : ∀ op ∈ s.operations, refusal? d op = none) :
    FailsOnly (s.toQueries d) (IsLate .alterTable) := by
  rw [toQueries_eq]
  refine s.failsOnly_ensureOperations.bind fun _ _ ↦ ?_
  refine FailsOnly.bind (.mapM fun op hop ↦ failsOnly_statement ?_ _) fun _ _ ↦ failsOnly_ok _
  intro op' hop'
  obtain rfl := List.mem_singleton.mp hop'
  exact h _ hop

end AlterTable

end SqlBuilder
