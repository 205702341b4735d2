import SqlBuilder.Proofs.Legality.DottedName
import SqlBuilder.Proofs.Pieces.Expr

/-!
# Which expressions are legal

Whether an expression is legal depends on its place, and the place changes where the arguments of a
call begin. The checks are made one by one while the expression is written; what they come to is
stated here without any writing: as a predicate on expressions, and as the list of everything that
is wrong with an expression, in the order of its text. Writing reports the first of these.

What a literal may be is up to the dialect, so both take what is held against literals for a
parameter. Dialects are asked to hold nothing against them but infinities and NaNs.
-/

namespace SqlBuilder

variable {d : Dialect} {objection : Literal → Option BuildError}

/-! ## Names and literals -/

/-- What is wrong with a name. -/
def nameFaults (name : String) : List BuildError :=
  faultIf (name = "") .emptyIdentifier

theorem Fragment.reportsFirst_ofName (name : String) :
    ReportsFirst (Fragment.ofName name) (nameFaults name) :=
  reportsFirst_ite _

/-- What is wrong with a column. -/
def ColumnRef.faults (c : ColumnRef) : List BuildError :=
  (c.table.toList ++ [c.name]).flatMap nameFaults

theorem ColumnRef.reportsFirst (c : ColumnRef) : ReportsFirst c.fragment c.faults := by
  have hname := Fragment.reportsFirst_ofName c.name
  rw [fragment, faults]
  cases c.table with
  | none => simpa using hname
  | some table =>
    have hboth := (Fragment.reportsFirst_ofName table).bind fun t _ ↦
      hname.bind_pure fun n ↦ t ++ .text "." :: n
    simpa using hboth

/-- What is wrong with the place of a literal. -/
def Literal.placeFaults (place : Place) : Literal → List BuildError
  | .all => faultIf (place ≠ .selectItem ∧ place ≠ .argument) .misplacedWildcard
  | .default => faultIf (place ≠ .insertValue) .misplacedDefault
  | _ => []

/-- What is wrong with a literal in a place. -/
def Literal.faults (objection : Literal → Option BuildError) (place : Place) (l : Literal) :
    List BuildError :=
  l.placeFaults place ++ (objection l).toList

theorem Literal.reportsFirst (l : Literal) (place : Place) :
    ReportsFirst (l.fragment d place) (l.faults d.objection? place) := by
  have hallowed : ReportsFirst (l.ensureAllowed place) (l.placeFaults place) := by
    cases l with
    | all => cases place <;> rfl
    | default => cases place <;> rfl
    | _ => exact reportsFirst_ok ()
  have hspelled : ReportsFirst (discard (d.renderLiteral l)) (d.objection? l).toList := by
    rw [ReportsFirst, fault?_discard, Option.head?_toList, Dialect.objection?]
  exact hallowed.bind fun _ _ ↦ hspelled.bind_pure _

/-- What is wrong with the name of a function. -/
def functionFaults (name : String) : List BuildError :=
  nameFaults name ++ faultIf (¬Text.IsFunctionName name) (.invalidFunctionName name)

theorem reportsFirst_ensureFunctionName (name : String) :
    ReportsFirst (ensureFunctionName name) (functionFaults name) := by
  rw [ensureFunctionName]
  refine ReportsFirst.check fun _ ↦ ?_
  simp only [Text.isDottedName_iff]
  rw [← ite_not]
  exact reportsFirst_ite ()

/-! ## Expressions -/

namespace Expr

variable (objection) in
mutual

/-- Everything that is wrong with an expression in a place, in the order of its text. -/
def faults (place : Place) : Expr → List BuildError
  | .column c => if place = .insertValue then [.columnInValues c.name] else c.faults
  | .literal l => l.faults objection place
  | .bind _ => []
  | .call function arguments => functionFaults function ++ faultsAll .argument arguments

/-- Everything that is wrong with expressions in a place, in the order of their text. -/
def faultsAll (place : Place) : List Expr → List BuildError
  | [] => []
  | e :: es => e.faults place ++ faultsAll place es

end

theorem faultsAll_eq_flatMap (place : Place) (es : List Expr) :
    faultsAll objection place es = es.flatMap (faults objection place) := by
  induction es with
  | nil => rfl
  | cons e es ih => rw [faultsAll, ih, List.flatMap_cons]

/-- Writing an expression reports the first of its faults. -/
theorem reportsFirst (e : Expr) (place : Place) :
    ReportsFirst (e.fragment d place) (e.faults d.objection? place) := by
  induction e using Expr.induction generalizing place with
  | column c =>
    rw [fragment, faults]
    by_cases hplace : place = .insertValue
    · rw [if_pos hplace, if_pos hplace]
      rfl
    · rw [if_neg hplace, if_neg hplace]
      exact c.reportsFirst
  | literal l => exact l.reportsFirst place
  | bind v => exact reportsFirst_ok _
  | call function arguments ih =>
    rw [fragment, faults, fragments_eq_mapM, faultsAll_eq_flatMap]
    refine (reportsFirst_ensureFunctionName function).bind fun _ _ ↦ ?_
    exact (ReportsFirst.mapM fun a ha ↦ ih a ha .argument).bind_pure _

theorem reportsFirst_fragments (es : List Expr) (place : Place) :
    ReportsFirst (fragments d place es) (es.flatMap (faults d.objection? place)) := by
  rw [fragments_eq_mapM]
  exact ReportsFirst.mapM fun e _ ↦ e.reportsFirst place

/-! ## Legal expressions -/

variable (objection) in
/-- The expression is legal in a place. -/
inductive IsLegal : Place → Expr → Prop
  /-- A column has a name and so has its table, if there is one. It is no value to insert. -/
  | column {place : Place} {c : ColumnRef} (hplace : place ≠ .insertValue)
    (htable : ∀ table ∈ c.table, table ≠ "") (hname : c.name ≠ "") : IsLegal place (.column c)
  /-- The wildcard is an item of a select list or directly an argument, the default is a value to
  insert, and nothing is held against the literal. -/
  | literal {place : Place} {l : Literal}
    (hall : l = .all → place = .selectItem ∨ place = .argument)
    (hdefault : l = .default → place = .insertValue) (hobjection : objection l = none) :
    IsLegal place (.literal l)
  /-- Everything can be bound. -/
  | bind {place : Place} (v : Value) : IsLegal place (.bind v)
  /-- A call has a name that needs no quotes, and its arguments are legal as such. -/
  | call {place : Place} {function : String} {arguments : List Expr}
    (hfunction : Text.IsFunctionName function) (harguments : ∀ a ∈ arguments, IsLegal .argument a) :
    IsLegal place (.call function arguments)

end Expr

theorem nameFaults_eq_nil_iff {name : String} : nameFaults name = [] ↔ name ≠ "" :=
  faultIf_eq_nil_iff

theorem flatMap_nameFaults_eq_nil_iff {names : List String} :
    names.flatMap nameFaults = [] ↔ "" ∉ names := by
  simp only [List.flatMap_eq_nil_iff, nameFaults_eq_nil_iff]
  constructor
  · intro h hmem
    exact h "" hmem rfl
  · rintro h name hname rfl
    exact h hname

theorem head?_flatMap_nameFaults {names : List String} (h : "" ∈ names) :
    (names.flatMap nameFaults).head? = some .emptyIdentifier := by
  induction names with
  | nil => exact nomatch h
  | cons name names ih =>
    rw [List.flatMap_cons, List.head?_append]
    by_cases hname : name = ""
    · subst hname
      rfl
    · rw [nameFaults_eq_nil_iff.mpr hname]
      apply ih
      exact (List.mem_cons.mp h).resolve_left (Ne.symm hname)

theorem ColumnRef.faults_eq_nil_iff {c : ColumnRef} :
    c.faults = [] ↔ (∀ table ∈ c.table, table ≠ "") ∧ c.name ≠ "" := by
  simp [faults, nameFaults_eq_nil_iff]

theorem Literal.faults_eq_nil_iff {l : Literal} {place : Place} :
    l.faults objection place = [] ↔ (l = .all → place = .selectItem ∨ place = .argument) ∧
      (l = .default → place = .insertValue) ∧ objection l = none := by
  rw [faults, List.append_eq_nil_iff, Option.toList_eq_nil_iff, ← and_assoc]
  refine and_congr_left fun _ ↦ ?_
  cases l <;> simp [placeFaults, faultIf_eq_nil_iff, or_iff_not_imp_left]

end SqlBuilder
