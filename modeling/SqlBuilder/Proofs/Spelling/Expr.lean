import SqlBuilder.Proofs.Pieces.Expr
import SqlBuilder.Proofs.Spelling.Sound

/-!
# What expressions write

An expression is a tree, and what it writes is read off the tree: the quoted texts are its names and
string literals from left to right, and the values that travel beside it are its bound values in the
same order. Whatever an expression writes is sound.
-/

namespace SqlBuilder

open Reading

variable {T : Set QuotedText} {d : Dialect} {f : Fragment} {place : Place}

/-- What a column puts between quotes. -/
def ColumnRef.texts (c : ColumnRef) : List QuotedText :=
  (c.table.toList ++ [c.name]).map .name

namespace Expr

/-! ## Quoted texts and bound values -/

mutual

/-- What an expression puts between quotes. -/
def texts : Expr → List QuotedText
  | .column c => c.texts
  | .literal l => l.texts
  | .bind _ => []
  | .call _ arguments => textsAll arguments

/-- What expressions put between quotes. -/
def textsAll : List Expr → List QuotedText
  | [] => []
  | e :: es => e.texts ++ textsAll es

end

mutual

/-- The bound values of an expression. -/
def binds : Expr → List Value
  | .column _ => []
  | .literal _ => []
  | .bind v => [v]
  | .call _ arguments => bindsAll arguments

/-- The bound values of expressions. -/
def bindsAll : List Expr → List Value
  | [] => []
  | e :: es => e.binds ++ bindsAll es

end

theorem textsAll_eq_flatMap (es : List Expr) : textsAll es = es.flatMap texts := by
  induction es with
  | nil => rfl
  | cons e es ih => rw [textsAll, ih, List.flatMap_cons]

theorem bindsAll_eq_flatMap (es : List Expr) : bindsAll es = es.flatMap binds := by
  induction es with
  | nil => rfl
  | cons e es ih => rw [bindsAll, ih, List.flatMap_cons]

/-- The placeholders of an expression are counted right. -/
theorem length_binds (e : Expr) : e.binds.length = e.bindCount := by
  induction e using Expr.induction with
  | column c => rfl
  | literal l => rfl
  | bind v => rfl
  | call function arguments ih =>
    rw [binds, bindCount]
    induction arguments with
    | nil => rfl
    | cons e es ihes =>
      rw [bindsAll, bindCountAll, List.length_append, ih e List.mem_cons_self,
        ihes fun a ha ↦ ih a (List.mem_cons_of_mem _ ha)]

/-! ## Writing expressions -/

/-- The values that travel beside an expression are its bound values in their order. -/
theorem binds_fragment {e : Expr} (h : e.fragment d place = .ok f) : f.binds = e.binds := by
  induction e using Expr.induction generalizing place f with
  | column c =>
    obtain ⟨-, -, hf⟩ := fragment_column_eq_ok_iff.mp h |>.imp_right ColumnRef.fragment_eq_ok_iff.mp
    cases htable : c.table with
    | none => simp_all [binds]
    | some table => simp_all [binds]
  | literal l =>
    obtain ⟨-, -, rfl⟩ := Literal.fragment_eq_ok_iff.mp h
    rfl
  | bind v =>
    obtain rfl := Except.ok.inj h
    rfl
  | call function arguments ih =>
    obtain ⟨-, -, fs, hfs, rfl⟩ := fragment_call_eq_ok_iff.mp h
    have hall : fs.flatMap Fragment.binds = arguments.flatMap binds :=
      flatMap_eq_of_forall₂ hfs fun a ha _ hf ↦ ih a ha hf
    simp [Fragment.commaList, Fragment.binds_joined, hall, binds, bindsAll_eq_flatMap]

/-- Whatever is written of an expression is sound. -/
theorem sound_fragment (hd : d.Regular) {e : Expr} (h : e.fragment d place = .ok f)
    (hT : ∀ t ∈ e.texts, t ∈ T) : f.Sound T := by
  induction e using Expr.induction generalizing place f with
  | column c =>
    obtain ⟨-, -, hf⟩ := fragment_column_eq_ok_iff.mp h |>.imp_right ColumnRef.fragment_eq_ok_iff.mp
    have hname : (Fragment.Sound T [.name c.name]) :=
      Fragment.Sound.single (hT _ (by simp [texts, ColumnRef.texts]))
    cases htable : c.table with
    | none =>
      rw [htable] at hf
      exact hf ▸ hname
    | some table =>
      rw [htable] at hf
      rw [hf.2]
      exact (Fragment.Sound.single (hT _ (by simp [texts, ColumnRef.texts, htable]))).append
        (Fragment.Tail.text (by decide) hname)
  | literal l =>
    obtain ⟨-, hfinite, rfl⟩ := (Literal.fragment_eq_ok_iff_of_usual hd.renderLiteral_usual).mp h
    exact Fragment.Sound.single ⟨hfinite, hT⟩
  | bind v =>
    obtain rfl := Except.ok.inj h
    exact Fragment.Sound.single trivial
  | call function arguments ih =>
    obtain ⟨-, hdotted, fs, hfs, rfl⟩ := fragment_call_eq_ok_iff.mp h
    have hall : ∀ f ∈ fs, f.Sound T := by
      refine forall_mem_of_forall₂ hfs fun a ha f hf ↦ ih a ha hf fun t ht ↦ hT t ?_
      rw [texts, textsAll_eq_flatMap]
      exact List.mem_flatMap_of_mem ha ht
    exact ((Fragment.Sound.commaList hall).closed (by decide)).text (by decide)
      |>.text (isText_of_isDottedName hdotted)

theorem sound_of_forall₂ (hd : d.Regular) {es : List Expr} {fs : List Fragment}
    (h : List.Forall₂ (fun e f ↦ e.fragment d place = .ok f) es fs)
    (hT : ∀ t ∈ es.flatMap texts, t ∈ T) : ∀ f ∈ fs, f.Sound T :=
  forall_mem_of_forall₂ h fun _ he _ hf ↦
    sound_fragment hd hf fun t ht ↦ hT t (List.mem_flatMap_of_mem he ht)

theorem binds_of_forall₂ {es : List Expr} {fs : List Fragment}
    (h : List.Forall₂ (fun e f ↦ e.fragment d place = .ok f) es fs) :
    fs.flatMap Fragment.binds = es.flatMap binds :=
  flatMap_eq_of_forall₂ h fun _ _ _ hf ↦ binds_fragment hf

end Expr

end SqlBuilder
