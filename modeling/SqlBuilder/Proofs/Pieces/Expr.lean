import SqlBuilder.Expr.Write
import SqlBuilder.Proofs.Pieces.Realizes

/-!
# Expressions as fragments

What is written of an expression depends on the dialect only where the dialect may refuse a literal.
The first fault from left to right is reported.
-/

namespace SqlBuilder

open Writer

variable {d : Dialect} {f : Fragment} {place : Place}

/-! ## Literals -/

/-- What the dialect has against a literal, wherever it stands. -/
def Dialect.objection? (d : Dialect) (l : Literal) : Option BuildError :=
  fault? (d.renderLiteral l)

/-- What dialects are asked to have against a literal: that it is an infinity or a NaN. -/
def Literal.usualObjection? : Literal → Option BuildError
  | .float x => if x.isFinite then none else some .nonFiniteNumber
  | _ => none

namespace Dialect

/-- The dialect gives the fault in the place of some literal. -/
def Answers (d : Dialect) (e : BuildError) : Prop :=
  ∃ l, d.renderLiteral l = .error e

/-- The dialect spells every literal but the infinities and NaNs, and refuses these for what they
are. That is what dialects are asked to do, and what they do without a rule of their own. -/
def RefusesNonFinite (d : Dialect) : Prop :=
  ∀ l, d.objection? l = l.usualObjection?

end Dialect

/-- A literal that belongs into the place, if the dialect can spell it. -/
def Literal.fragment (d : Dialect) (place : Place) (l : Literal) : Except BuildError Fragment := do
  l.ensureAllowed place
  discard (d.renderLiteral l)
  return [.literal l]

theorem discard_eq_ok_iff {ε α : Type} {x : Except ε α} {u : Unit} :
    discard x = .ok u ↔ ∃ a, x = .ok a := by
  cases x with
  | ok a => simp [discard, Functor.discard, Functor.mapConst, Except.map]
  | error e => simp [discard, Functor.discard, Functor.mapConst, Except.map]

theorem Literal.fragment_eq_ok_iff {l : Literal} : l.fragment d place = .ok f
    ↔ l.ensureAllowed place = .ok () ∧ (∃ s, d.renderLiteral l = .ok s) ∧ f = [.literal l] := by
  simp only [Literal.fragment, bind_eq_ok_iff, pure_eq_ok_iff, discard_eq_ok_iff]
  constructor
  · rintro ⟨_, hallowed, _, hspelled, rfl⟩
    exact ⟨hallowed, hspelled, rfl⟩
  · rintro ⟨hallowed, hspelled, rfl⟩
    exact ⟨(), hallowed, (), hspelled, rfl⟩

/-- The usual rule spells the literals that are finite. -/
theorem Dialect.renderLiteral_eq_ok_iff_of_usual (hd : d.ownRenderLiteral = none) {l : Literal}
    {s : String} : d.renderLiteral l = .ok s ↔ l.ensureFinite = .ok () ∧ d.usualText l = s := by
  simp only [renderLiteral, hd, bind_eq_ok_iff, pure_eq_ok_iff, Unique.exists_iff]

theorem Literal.fragment_eq_ok_iff_of_usual (hd : d.ownRenderLiteral = none) {l : Literal} :
    l.fragment d place = .ok f
      ↔ l.ensureAllowed place = .ok () ∧ l.ensureFinite = .ok () ∧ f = [.literal l] := by
  simp only [fragment_eq_ok_iff, Dialect.renderLiteral_eq_ok_iff_of_usual hd, exists_and_left,
    exists_eq', and_true]

theorem Literal.realizes_write (l : Literal) :
    Realizes d (l.write d place) (l.fragment d place) := by
  refine Realizes.check _ fun _ _ ↦ ?_
  have hrest : Realizes d (do text (← check (d.renderLiteral l)))
      (do let _ ← d.renderLiteral l; .ok [.literal l]) := by
    refine Realizes.check _ fun s hs ↦ ⟨?_, ?_⟩
    · intro f hf q
      obtain rfl := Except.ok.inj hf
      rw [← Dialect.literalText_of_renderLiteral hs]
      rfl
    · intro e he
      cases he
  refine hrest.congr ?_
  cases d.renderLiteral l <;> rfl

/-- Without a rule of its own a dialect refuses the infinities and NaNs only. -/
theorem Dialect.refusesNonFinite_of_usual (hd : d.ownRenderLiteral = none) :
    d.RefusesNonFinite := by
  intro l
  rw [objection?, renderLiteral, hd]
  cases l with
  | float x =>
    rw [Literal.usualObjection?, Literal.ensureFinite]
    by_cases hfinite : x.isFinite
    · rw [if_pos hfinite, if_pos hfinite]
      rfl
    · rw [if_neg hfinite, if_neg hfinite]
      rfl
  | _ => rfl

theorem Literal.eq_of_usualObjection? {l : Literal} {e : BuildError}
    (h : l.usualObjection? = some e) : e = .nonFiniteNumber := by
  cases l with
  | float x =>
    rw [usualObjection?] at h
    split at h
    · cases h
    · exact (Option.some.inj h).symm
  | _ => cases h

theorem Dialect.RefusesNonFinite.eq_of_answers (hd : d.RefusesNonFinite) {e : BuildError}
    (h : d.Answers e) : e = .nonFiniteNumber := by
  obtain ⟨l, hl⟩ := h
  refine Literal.eq_of_usualObjection? (l := l) ?_
  rw [← hd l, objection?, hl]
  rfl

/-! ## Names and columns -/

theorem Fragment.ofName_eq_ok_iff {name : String} :
    Fragment.ofName name = .ok f ↔ name ≠ "" ∧ f = [.name name] := by
  by_cases h : name = ""
  · simp [Fragment.ofName, h]
  · simp [Fragment.ofName, h, eq_comm]

/-- A column, behind its table and a point if it is qualified. -/
def ColumnRef.fragment (c : ColumnRef) : Except BuildError Fragment := do
  match c.table with
  | none => Fragment.ofName c.name
  | some table =>
    let table ← Fragment.ofName table
    let column ← Fragment.ofName c.name
    return table ++ .text "." :: column

theorem ColumnRef.fragment_eq_ok_iff {c : ColumnRef} :
    c.fragment = .ok f ↔ c.name ≠ "" ∧ match c.table with
      | none => f = [.name c.name]
      | some table => table ≠ "" ∧ f = [.name table, .text ".", .name c.name] := by
  rw [ColumnRef.fragment]
  cases c.table with
  | none => exact Fragment.ofName_eq_ok_iff
  | some table =>
    simp only [bind_eq_ok_iff, Fragment.ofName_eq_ok_iff, pure_eq_ok_iff]
    constructor
    · rintro ⟨_, ⟨htable, rfl⟩, _, ⟨hname, rfl⟩, rfl⟩
      exact ⟨hname, htable, rfl⟩
    · rintro ⟨hname, htable, rfl⟩
      exact ⟨_, ⟨htable, rfl⟩, _, ⟨hname, rfl⟩, rfl⟩

theorem ensureFunctionName_eq_ok_iff {name : String} {u : Unit} :
    ensureFunctionName name = .ok u ↔ name ≠ "" ∧ Text.isDottedName name := by
  by_cases h : name = ""
  · simp [ensureFunctionName, h]
  · by_cases hdotted : Text.isDottedName name
    · simp [ensureFunctionName, h, hdotted]
    · simp [ensureFunctionName, h, hdotted]

theorem ColumnRef.realizes_write (c : ColumnRef) : Realizes d (c.write d) c.fragment := by
  rw [write, fragment]
  cases c.table with
  | none => exact Realizes.name c.name
  | some table =>
    have hboth := (Realizes.name (d := d) table).seq
      ((Realizes.text ".").seq (Realizes.name c.name))
    refine hboth.congr ?_
    simp only [bind_assoc, pure_bind, ok_bind, List.singleton_append]

/-! ## Expressions -/

namespace Expr

variable (d) in
mutual

/-- The expression as it is written in a place. -/
def fragment (place : Place) : Expr → Except BuildError Fragment
  | .column c => if place = .insertValue then .error (.columnInValues c.name) else c.fragment
  | .literal l => l.fragment d place
  | .bind v => .ok [.bind v]
  | .call function arguments => do
    ensureFunctionName function
    let arguments ← fragments .argument arguments
    return .text function :: .text "(" :: (Fragment.commaList arguments ++ [.text ")"])

/-- The expressions as each is written in a place. -/
def fragments (place : Place) : List Expr → Except BuildError (List Fragment)
  | [] => .ok []
  | e :: es => do
    let f ← e.fragment place
    let fs ← fragments place es
    return f :: fs

end

/-- Induction on an expression: a call may use the property of each of its arguments. -/
@[elab_as_elim]
theorem induction {motive : Expr → Prop} (column : ∀ c, motive (.column c))
    (literal : ∀ l, motive (.literal l)) (bind : ∀ v, motive (.bind v))
    (call : ∀ function arguments, (∀ a ∈ arguments, motive a) → motive (.call function arguments)) :
    ∀ e, motive e
  | .column c => column c
  | .literal l => literal l
  | .bind v => bind v
  | .call function arguments =>
    call function arguments fun a _ ↦ induction column literal bind call a

theorem fragments_eq_mapM (place : Place) (es : List Expr) :
    fragments d place es = es.mapM (fragment d place) := by
  induction es with
  | nil => rfl
  | cons e es ih =>
    rw [fragments, List.mapM_cons, ih]

theorem writeAll_eq_map (place : Place) (es : List Expr) :
    writeAll d place es = es.map (write d place) := by
  induction es with
  | nil => rfl
  | cons e es ih => rw [writeAll, List.map_cons, ih]

theorem fragments_eq_ok_iff {es : List Expr} {fs : List Fragment} :
    fragments d place es = .ok fs ↔ List.Forall₂ (fun e f ↦ e.fragment d place = .ok f) es fs := by
  rw [fragments_eq_mapM, mapM_eq_ok_iff]

theorem fragment_column_eq_ok_iff {c : ColumnRef} :
    (column c).fragment d place = .ok f ↔ place ≠ .insertValue ∧ c.fragment = .ok f := by
  by_cases h : place = .insertValue
  · simp [fragment, h]
  · simp [fragment, h]

theorem fragment_call_eq_ok_iff {function : String} {arguments : List Expr} :
    (call function arguments).fragment d place = .ok f
      ↔ function ≠ "" ∧ Text.isDottedName function ∧
        ∃ fs, List.Forall₂ (fun e f ↦ e.fragment d .argument = .ok f) arguments fs ∧
          f = .text function :: .text "(" :: (Fragment.commaList fs ++ [.text ")"]) := by
  simp only [fragment, bind_eq_ok_iff, ensureFunctionName_eq_ok_iff, fragments_eq_ok_iff,
    pure_eq_ok_iff]
  constructor
  · rintro ⟨_, ⟨hne, hdotted⟩, fs, hfs, rfl⟩
    exact ⟨hne, hdotted, fs, hfs, rfl⟩
  · rintro ⟨hne, hdotted, fs, hfs, rfl⟩
    exact ⟨(), ⟨hne, hdotted⟩, fs, hfs, rfl⟩

/-- Writing an expression agrees with writing its pieces. -/
theorem realizes_write (e : Expr) (place : Place) :
    Realizes d (e.write d place) (e.fragment d place) := by
  induction e using Expr.induction generalizing place with
  | column c =>
    rw [write, fragment]
    by_cases h : place = .insertValue
    · rw [if_pos h, if_pos h]
      exact Realizes.fault _
    · rw [if_neg h, if_neg h]
      exact c.realizes_write
  | literal l =>
    rw [write, fragment]
    exact l.realizes_write
  | bind v =>
    rw [write]
    exact Realizes.value v
  | call function arguments ih =>
    rw [write, fragment, writeAll_eq_map, fragments_eq_mapM]
    refine Realizes.check _ fun _ _ ↦ ?_
    have hlist := (Realizes.commaList fun a ha ↦ ih a ha .argument).seq (Realizes.text ")")
    refine ((Realizes.text function).seq ((Realizes.text "(").seq hlist)).congr ?_
    simp only [bind_assoc, pure_bind, ok_bind, List.singleton_append]

/-- Writing a list of expressions agrees with writing it as a list of fragments. -/
theorem realizes_commaList (es : List Expr) (place : Place) :
    Realizes d (commaList (writeAll d place es))
      (do return Fragment.commaList (← fragments d place es)) := by
  rw [writeAll_eq_map, fragments_eq_mapM]
  exact Realizes.commaList fun e _ ↦ e.realizes_write place

/-- Likewise behind keywords. -/
theorem realizes_clause (keywords : String) (es : List Expr) (place : Place) :
    Realizes d (clause keywords (writeAll d place es))
      (do return Fragment.clause keywords (← fragments d place es)) := by
  rw [writeAll_eq_map, fragments_eq_mapM]
  exact Realizes.clause keywords fun e _ ↦ e.realizes_write place

end Expr

end SqlBuilder
