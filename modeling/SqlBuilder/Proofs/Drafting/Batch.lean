import SqlBuilder.Proofs.Drafting.Forms
import SqlBuilder.Proofs.Pieces.Rows

/-!
# Too many changes

A statement that is drafted from clauses alone fails for the number of its changes only if it is an
alteration with several clauses in a dialect that makes one change per statement. Every other
statement is bound to fail for something else, if it fails at all, or with what the dialect answers
in the place of a literal.
-/

namespace SqlBuilder

open BuildError

variable {d : Dialect} {P : BuildError → Prop}

/-! ## Drafts of clauses alone -/

namespace Draft

variable {α κ : Type} [Statement α κ] [Refusable κ] [ClauseWise α] {start : α} {ks : List κ}

/-- A draft fails for the refusal of a clause or for a fault of what was accepted. -/
theorem failsOnly_draft [Fragmented α] (hrefusal : ∀ e, e.IsRefusal d → P e)
    (hfragment : FailsOnly
      (Fragmented.fragment d ((acceptedClauses d ks).foldl ClauseWise.extended start)) P) :
    FailsOnly (Statement.draft d start ks) P := by
  have hstage : (({ content := start } : Draft α).addAll d ks).stage = .building :=
    stage_addAll d _ ks
  intro e he
  rw [Statement.draft, toQuery] at he
  cases hfirst : (({ content := start } : Draft α).addAll d ks).refusal with
  | none =>
    rw [preview_of_accepted hstage hfirst, content_addAll rfl] at he
    exact failsOnly_toQuery hfragment e he
  | some e' =>
    rw [preview_of_refusal hstage hfirst] at he
    obtain rfl := Except.error.inj he
    rw [refusal_addAll rfl, Option.none_or] at hfirst
    obtain ⟨k, -, hk⟩ := List.exists_of_findSome?_eq_some hfirst
    exact hrefusal _ (Refusable.isRefusal hk)

/-- If no clause is refused, the statement has all of them. -/
theorem draft_of_accepted (h : ∀ k ∈ ks, refusal? d k = none) :
    Statement.draft d start ks = Statement.toQuery d (ks.foldl ClauseWise.extended start) := by
  have hfirst : (({ content := start } : Draft α).addAll d ks).refusal = none :=
    refusal_addAll_eq_none_iff.mpr h
  rw [Statement.draft, toQuery, preview_of_accepted (stage_addAll d _ ks) hfirst,
    content_addAll rfl, acceptedClauses_eq_self h]

/-- A statement that was built had no clause refused. -/
theorem accepted_of_draft {q : Query} (h : Statement.draft d start ks = .ok q) :
    ∀ k ∈ ks, refusal? d k = none := by
  obtain ⟨-, hfirst, -⟩ := preview_eq_ok_iff.mp h
  exact refusal_addAll_eq_none_iff.mp hfirst

end Draft

/-! ## Rows -/

instance : Refusable Insert.Clause where
  refusal? _ _ := none
  isRefusal := nofun

instance : ClauseWise Insert where
  extended := Insert.extend
  accept_eq _ _ _ := rfl

instance : Refusable Select.Clause where
  refusal? _ _ := none
  isRefusal := nofun

instance : ClauseWise Select where
  extended := Select.extend
  accept_eq _ _ _ := rfl

/-! Nothing that is written of a row has a number of changes to report. -/

theorem notCounted_emptyIdentifier (d : Dialect) : NotCounted d .emptyIdentifier :=
  notBatch_emptyIdentifier.notCounted d

theorem ColumnRef.notCounted_fragment (d : Dialect) (c : ColumnRef) :
    FailsOnly c.fragment (NotCounted d) := by
  rw [fragment]
  cases c.table with
  | none => exact Fragment.failsOnly_ofName (notCounted_emptyIdentifier d) _
  | some table =>
    exact (Fragment.failsOnly_ofName (notCounted_emptyIdentifier d) _).bind fun _ _ ↦
      (Fragment.failsOnly_ofName (notCounted_emptyIdentifier d) _).bind fun _ _ ↦ failsOnly_ok _

theorem notCounted_ensureFunctionName (d : Dialect) (name : String) :
    FailsOnly (ensureFunctionName name) (NotCounted d) := by
  have hinvalid : NotBatch (.invalidFunctionName name) := by simp [NotBatch]
  rw [ensureFunctionName]
  refine .check (fun _ ↦ notCounted_emptyIdentifier d) fun _ ↦ ?_
  split
  · exact failsOnly_ok _
  · exact failsOnly_error (hinvalid.notCounted d)

namespace Expr

theorem notCounted_fragment (e : Expr) (place : Place) :
    FailsOnly (e.fragment d place) (NotCounted d) := by
  induction e using Expr.induction generalizing place with
  | column c =>
    have hvalue : NotBatch (.columnInValues c.name) := by simp [NotBatch]
    rw [fragment]
    exact .check (fun _ ↦ hvalue.notCounted d) fun _ ↦ c.notCounted_fragment d
  | literal l => exact (l.failsOnly_fragment place).mono fun _ h ↦ h.notCounted
  | bind v => exact failsOnly_ok _
  | call function arguments ih =>
    rw [fragment, fragments_eq_mapM]
    refine (notCounted_ensureFunctionName d function).bind fun _ _ ↦ ?_
    exact (FailsOnly.mapM fun e he ↦ ih e he .argument).bind fun _ _ ↦ failsOnly_ok _

theorem notCounted_fragments (place : Place) (es : List Expr) :
    FailsOnly (fragments d place es) (NotCounted d) := by
  rw [fragments_eq_mapM]
  exact .mapM fun e _ ↦ e.notCounted_fragment place

end Expr

namespace Predicate

theorem notCounted_fragment (p : Predicate) : FailsOnly (p.fragment d) (NotCounted d) := by
  induction p using Predicate.induction with
  | comparison c =>
    exact (c.left.notCounted_fragment _).bind fun _ _ ↦
      (c.right.notCounted_fragment _).bind fun _ _ ↦ failsOnly_ok _
  | group combinator children ih =>
    rw [fragment, fragments_eq_mapM]
    exact (FailsOnly.mapM ih).bind fun _ _ ↦ failsOnly_ok _

end Predicate

theorem WhereGroup.notCounted_fragment (g : WhereGroup) :
    FailsOnly (g.fragment d) (NotCounted d) := by
  rw [fragment, Predicate.fragments_eq_mapM]
  exact (FailsOnly.mapM fun p _ ↦ p.notCounted_fragment).bind fun _ _ ↦ failsOnly_ok _

theorem Insert.notCounted_fragment (s : Insert) : FailsOnly (s.fragment d) (NotCounted d) := by
  have hname := notCounted_emptyIdentifier d
  have hragged (index expected found : Nat) : NotBatch (.arityMismatch index expected found) := by
    simp [NotBatch]
  have hrow (row : List Expr) : FailsOnly (rowFragment d row) (NotCounted d) :=
    (Expr.notCounted_fragments _ row).bind fun _ _ ↦ failsOnly_ok _
  rw [fragment]
  simp only [throw_bind]
  refine .check (fun _ ↦ (notBatch_noColumns _).notCounted d) fun _ ↦ ?_
  refine .check (fun _ ↦ (notBatch_missingClause _ _).notCounted d) fun _ ↦ ?_
  split
  · exact failsOnly_error ((hragged _ _ _).notCounted d)
  · refine (Fragment.failsOnly_ofName hname _).bind fun _ _ ↦ ?_
    refine (Fragment.failsOnly_ofNames hname _).bind fun _ _ ↦ ?_
    exact (FailsOnly.mapM fun row _ ↦ hrow row).bind fun _ _ ↦ failsOnly_ok _

theorem Select.notCounted_fragment (s : Select) : FailsOnly (s.fragment d) (NotCounted d) := by
  have htable (table : String) : FailsOnly (Fragment.ofName table) (NotCounted d) :=
    Fragment.failsOnly_ofName (notCounted_emptyIdentifier d) table
  have hcondition : FailsOnly (conditionFragment d s.condition) (NotCounted d) := by
    rw [conditionFragment]
    split
    · exact failsOnly_ok _
    · exact s.condition.notCounted_fragment.bind fun _ _ ↦ failsOnly_ok _
  have horder (item : Expr × Direction) : FailsOnly (orderFragment d item) (NotCounted d) :=
    (item.1.notCounted_fragment _).bind fun _ _ ↦ failsOnly_ok _
  rw [fragment]
  simp only [throw_bind]
  refine .check (fun _ ↦ (notBatch_noColumns _).notCounted d) fun _ ↦ ?_
  refine .check (fun _ ↦ (notBatch_missingClause _ _).notCounted d) fun _ ↦ ?_
  refine (Expr.notCounted_fragments _ _).bind fun _ _ ↦ ?_
  refine (FailsOnly.mapM fun table _ ↦ htable table).bind fun _ _ ↦ ?_
  refine hcondition.bind fun _ _ ↦ (Expr.notCounted_fragments _ _).bind fun _ _ ↦ ?_
  exact (FailsOnly.mapM fun item _ ↦ horder item).bind fun _ _ ↦ failsOnly_ok _

/-! ## Tables -/

theorem CreateTable.notCounted_fragment (s : CreateTable) :
    FailsOnly (s.fragment d) (NotCounted d) := by
  have hcolumn (c : ColumnDefinition) : FailsOnly (c.fragment d) (NotCounted d) :=
    (c.failsOnly_fragment d).mono fun _ h ↦ h.notCounted
  rw [fragment]
  simp only [throw_bind]
  refine .check (fun _ ↦ (notBatch_noColumns _).notCounted d) fun _ ↦ ?_
  refine (Fragment.failsOnly_ofName (notCounted_emptyIdentifier d) _).bind fun _ _ ↦ ?_
  exact (FailsOnly.mapM fun c _ ↦ hcolumn c).bind fun _ _ ↦ failsOnly_ok _

theorem AlterTable.operations_foldl (s : AlterTable) (ops : List AlterOperation) :
    (ops.foldl ClauseWise.extended s).operations = s.operations ++ ops := by
  induction ops generalizing s with
  | nil => exact (List.append_nil _).symm
  | cons op ops ih =>
    refine (ih (ClauseWise.extended s op)).trans ?_
    exact List.append_assoc s.operations [op] ops

/-- Only an alteration with too many changes fails for their number. -/
theorem AlterTable.notCounted_fragment {s : AlterTable} (h : ¬TooMany d s) :
    FailsOnly (s.fragment d) (NotCounted d) := by
  by_cases hs : s.operations = []
  · rw [fragment, ensureOperations, hs]
    exact failsOnly_error ((notBatch_noColumns _).notCounted d)
  · rw [fragment_of_ne hs, if_neg h, statement_eq]
    exact ((failsOnly_changes d s).mono fun _ h ↦ h.notCounted).map _

/-! ## Drafts -/

namespace Draft

/-- A draft other than that of an alteration never has too many changes. -/
theorem notCounted_draft {α κ : Type} [Statement α κ] [Fragmented α] [Refusable κ] [ClauseWise α]
    (hfragment : ∀ a : α, FailsOnly (Fragmented.fragment d a) (NotCounted d)) (start : α)
    (ks : List κ) : FailsOnly (Statement.draft d start ks) (NotCounted d) :=
  failsOnly_draft (fun _ h ↦ h.notCounted) (hfragment _)

/-- The draft of an alteration has too many changes only if it was given too many. -/
theorem notCounted_draft_alterTable {table : String} {ops : List AlterOperation}
    (h : ops.length ≤ 1 ∨ d.batchesAlter) :
    FailsOnly (Statement.draft d { table : AlterTable } ops) (NotCounted d) := by
  refine failsOnly_draft (fun _ h ↦ h.notCounted) (AlterTable.notCounted_fragment ?_)
  rintro ⟨hmany, hbatch⟩
  rw [AlterTable.operations_foldl, List.nil_append] at hmany
  have hfewer : (acceptedClauses d ops).length ≤ ops.length := List.length_filter_le _ _
  rcases h with hone | hbatch'
  · omega
  · exact hbatch hbatch'

/-- If every change is accepted, too many of them are refused together. -/
theorem draft_alterTable_of_tooMany {table : String} {ops : List AlterOperation}
    (h : ∀ op ∈ ops, refusal? d op = none) (hmany : 1 < ops.length) (hbatch : ¬d.batchesAlter) :
    Statement.draft d { table : AlterTable } ops =
      .error (.batchAlterUnsupported d.name ops.length) := by
  have hoperations : (ops.foldl ClauseWise.extended { table : AlterTable }).operations = ops :=
    AlterTable.operations_foldl _ _
  have htooMany : AlterTable.TooMany d (ops.foldl ClauseWise.extended { table : AlterTable }) := by
    refine ⟨?_, hbatch⟩
    rwa [hoperations]
  rw [draft_of_accepted h, AlterTable.toQuery_of_tooMany htooMany, hoperations]

end Draft

end SqlBuilder
