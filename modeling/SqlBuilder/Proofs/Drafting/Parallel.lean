import SqlBuilder.Proofs.Pieces.Rows

/-!
# One statement in two dialects

To write a selection or an insertion a dialect is asked for spellings only. Two writers of the same
statement in two dialects therefore take the same steps side by side. A name or a placeholder may
come out differently at each step, but never stops a writer, and the values that travel are taken
from the statement. What a dialect may refuse is a literal, so the dialects have to refuse the same
ones.

The relation is kept by everything that writers are put together from, and is then read off for each
writer by the steps it takes.
-/

namespace SqlBuilder

open Writer

namespace Dialect

variable {d d' : Dialect}

/-- The dialects refuse the same literals, and for the same faults. -/
def SameVerdicts (d d' : Dialect) : Prop :=
  ∀ l, d.objection? l = d'.objection? l

theorem RefusesNonFinite.sameVerdicts (hd : d.RefusesNonFinite) (hd' : d'.RefusesNonFinite) :
    d.SameVerdicts d' :=
  fun l ↦ (hd l).trans (hd' l).symm

end Dialect

/-! ## Side by side -/

namespace Writer

/-- Behind the same values both writers end alike and leave the same values, whatever was written
before. -/
structure Parallel (w w' : Writer Unit) : Prop where
  /-- Both get to their end, or both stop at the same fault. -/
  ends : ∀ q q', q.binds = q'.binds → (w.behind q).1 = (w'.behind q').1
  /-- Both leave the same values. -/
  binds : ∀ q q', q.binds = q'.binds → (w.behind q).2.binds = (w'.behind q').2.binds

namespace Parallel

variable (d d' : Dialect) {w w' v v' : Writer Unit} {α : Type}

/-! ### One step -/

theorem nil : Parallel (pure ()) (pure ()) :=
  ⟨fun _ _ _ ↦ rfl, fun _ _ h ↦ h⟩

theorem fault (e : BuildError) : Parallel (throw e) (throw e) :=
  ⟨fun _ _ _ ↦ rfl, fun _ _ h ↦ h⟩

/-- Texts need not be the same. -/
theorem text (s s' : String) : Parallel (Writer.text s) (Writer.text s') :=
  ⟨fun _ _ _ ↦ rfl, fun _ _ h ↦ h⟩

/-- A placeholder may be spelled in two ways; its value travels with both. -/
theorem value (v : Value) : Parallel (Writer.value d v) (Writer.value d' v) :=
  ⟨fun _ _ _ ↦ rfl, fun _ _ h ↦ congrArg (· ++ [v]) h⟩

theorem name (s : String) : Parallel (Writer.name d s) (Writer.name d' s) := by
  by_cases hs : s = ""
  · rw [Writer.name, Writer.name, if_pos hs, if_pos hs]
    exact fault _
  · rw [Writer.name, Writer.name, if_neg hs, if_neg hs]
    exact text _ _

/-- What two dialects spell may differ, as long as they refuse for the same fault. -/
theorem token {x y : Except BuildError String} (h : fault? x = fault? y) :
    Parallel (do Writer.text (← Writer.check x)) (do Writer.text (← Writer.check y)) := by
  cases x with
  | ok s =>
    obtain ⟨s', rfl⟩ := fault?_eq_none_iff.mp h.symm
    exact text s s'
  | error e =>
    obtain rfl := fault?_eq_some_iff.mp h.symm
    exact fault e

/-! ### One step after another -/

theorem check {w w' : α → Writer Unit} (c : Except BuildError α)
    (h : ∀ a, Parallel (w a) (w' a)) :
    Parallel (do w (← Writer.check c)) (do w' (← Writer.check c)) := by
  cases c with
  | ok a => exact h a
  | error e => exact fault e

theorem guarded {c : Prop} [Decidable c] {e : BuildError} (h : Parallel w w') :
    Parallel (if c then throw e else w) (if c then throw e else w') := by
  by_cases hc : c
  · rw [if_pos hc, if_pos hc]
    exact fault e
  · rw [if_neg hc, if_neg hc]
    exact h

theorem seq (h : Parallel w w') (h' : Parallel v v') :
    Parallel (do w; v) (do w'; v') := by
  have hboth (q q' : Query) (hq : q.binds = q'.binds) :
      (behind (do w; v) q).1 = (behind (do w'; v') q').1 ∧
        (behind (do w; v) q).2.binds = (behind (do w'; v') q').2.binds := by
    have hends := h.ends q q' hq
    have hbinds := h.binds q q' hq
    rcases hw : w.behind q with ⟨_ | u, q₁⟩
    · rcases hw' : w'.behind q' with ⟨r', q₁'⟩
      rw [hw, hw'] at hends hbinds
      obtain rfl : r' = _ := hends.symm
      rw [behind_bind_of_error hw, behind_bind_of_error hw']
      exact ⟨rfl, hbinds⟩
    · rcases hw' : w'.behind q' with ⟨r', q₁'⟩
      rw [hw, hw'] at hends hbinds
      obtain rfl : r' = _ := hends.symm
      rw [behind_bind_of_ok hw, behind_bind_of_ok hw']
      exact ⟨h'.ends q₁ q₁' hbinds, h'.binds q₁ q₁' hbinds⟩
  exact ⟨fun q q' hq ↦ (hboth q q' hq).1, fun q q' hq ↦ (hboth q q' hq).2⟩

/-! ### Lists -/

variable {as : List α} {f g : α → Writer Unit}

theorem joined (separator : String) (h : ∀ a ∈ as, Parallel (f a) (g a)) :
    Parallel (Writer.joined separator (as.map f)) (Writer.joined separator (as.map g)) := by
  induction as with
  | nil => exact nil
  | cons a as ih =>
    obtain ⟨ha, has⟩ := List.forall_mem_cons.mp h
    cases as with
    | nil => exact ha
    | cons b bs => exact ha.seq ((text _ _).seq (ih has))

theorem commaList (h : ∀ a ∈ as, Parallel (f a) (g a)) :
    Parallel (Writer.commaList (as.map f)) (Writer.commaList (as.map g)) :=
  joined ", " h

theorem names (ss : List String) : Parallel (Writer.names d ss) (Writer.names d' ss) :=
  commaList fun s _ ↦ name d d' s

theorem optional (asked : Bool) (s : String) :
    Parallel (Writer.optional asked s) (Writer.optional asked s) := by
  cases asked with
  | false => exact nil
  | true => exact text s s

theorem clause (keywords : String) (h : ∀ a ∈ as, Parallel (f a) (g a)) :
    Parallel (Writer.clause keywords (as.map f)) (Writer.clause keywords (as.map g)) := by
  cases as with
  | nil => exact nil
  | cons a as => exact (text _ _).seq (commaList h)

/-! ### Both queries -/

/-- Behind nothing both writers fail with the same fault or give queries with the same values. -/
theorem query (h : Parallel w w') :
    (∃ e, w.query = .error e ∧ w'.query = .error e) ∨
      ∃ q q', w.query = .ok q ∧ w'.query = .ok q' ∧ q.binds = q'.binds := by
  have hends := h.ends ⟨"", []⟩ ⟨"", []⟩ rfl
  have hbinds := h.binds ⟨"", []⟩ ⟨"", []⟩ rfl
  rw [Writer.query, Writer.query, hends]
  cases (w'.behind ⟨"", []⟩).1 with
  | error e => exact Or.inl ⟨e, rfl, rfl⟩
  | ok u => exact Or.inr ⟨_, _, rfl, rfl, hbinds⟩

end Parallel

end Writer

/-! ## Expressions and conditions -/

section

variable {d d' : Dialect}

theorem Literal.parallel_write (hd : d.SameVerdicts d') (l : Literal) (place : Place) :
    Parallel (l.write d place) (l.write d' place) :=
  Parallel.check _ fun _ ↦ Parallel.token (hd l)

theorem ColumnRef.parallel_write (c : ColumnRef) : Parallel (c.write d) (c.write d') := by
  rw [write, write]
  cases c.table with
  | none => exact Parallel.name d d' c.name
  | some table =>
    exact (Parallel.name d d' table).seq ((Parallel.text _ _).seq (Parallel.name d d' c.name))

namespace Expr

/-- An expression is written in the same steps in both dialects. -/
theorem parallel_write (hd : d.SameVerdicts d') (e : Expr) (place : Place) :
    Parallel (e.write d place) (e.write d' place) := by
  induction e using Expr.induction generalizing place with
  | column c =>
    rw [write, write]
    exact Parallel.guarded c.parallel_write
  | literal l =>
    rw [write, write]
    exact l.parallel_write hd place
  | bind v =>
    rw [write, write]
    exact Parallel.value d d' v
  | call function arguments ih =>
    rw [write, write, writeAll_eq_map, writeAll_eq_map]
    refine Parallel.check _ fun _ ↦ (Parallel.text _ _).seq ((Parallel.text _ _).seq ?_)
    exact (Parallel.commaList fun a ha ↦ ih a ha .argument).seq (Parallel.text _ _)

theorem parallel_commaList (hd : d.SameVerdicts d') (es : List Expr) (place : Place) :
    Parallel (commaList (writeAll d place es)) (commaList (writeAll d' place es)) := by
  rw [writeAll_eq_map, writeAll_eq_map]
  exact Parallel.commaList fun e _ ↦ e.parallel_write hd place

theorem parallel_clause (hd : d.SameVerdicts d') (keywords : String) (es : List Expr)
    (place : Place) :
    Parallel (clause keywords (writeAll d place es)) (clause keywords (writeAll d' place es)) := by
  rw [writeAll_eq_map, writeAll_eq_map]
  exact Parallel.clause keywords fun e _ ↦ e.parallel_write hd place

end Expr

theorem Comparison.parallel_write (hd : d.SameVerdicts d') (c : Comparison) :
    Parallel (c.write d) (c.write d') := by
  refine (c.left.parallel_write hd .operand).seq ((Parallel.text _ _).seq ?_)
  exact (Parallel.text _ _).seq ((Parallel.text _ _).seq (c.right.parallel_write hd .operand))

namespace Predicate

theorem parallel_writeEnclosed {w w' : Writer Unit} (h : Parallel w w') (size : Nat) :
    Parallel (writeEnclosed size w) (writeEnclosed size w') := by
  by_cases hsize : 1 < size
  · rw [writeEnclosed, writeEnclosed, if_pos hsize, if_pos hsize]
    exact (Parallel.text _ _).seq (h.seq (Parallel.text _ _))
  · rw [writeEnclosed, writeEnclosed, if_neg hsize, if_neg hsize]
    exact h

/-- A condition is written in the same steps in both dialects. -/
theorem parallel_write (hd : d.SameVerdicts d') (p : Predicate) :
    Parallel (p.write d) (p.write d') := by
  induction p using Predicate.induction with
  | comparison c =>
    rw [write, write]
    exact c.parallel_write hd
  | group combinator children ih =>
    rw [write, write, writeAll_eq_map, writeAll_eq_map]
    exact parallel_writeEnclosed (Parallel.joined _ ih) _

end Predicate

theorem WhereGroup.parallel_write (hd : d.SameVerdicts d') (g : WhereGroup) :
    Parallel (g.write d) (g.write d') := by
  rw [write, write, Predicate.writeAll_eq_map, Predicate.writeAll_eq_map]
  exact Parallel.joined _ fun p _ ↦ p.parallel_write hd

/-! ## Statements -/

namespace Insert

theorem parallel_writeRow (hd : d.SameVerdicts d') (row : List Expr) :
    Parallel (writeRow d row) (writeRow d' row) :=
  (Parallel.text _ _).seq ((Expr.parallel_commaList hd row .insertValue).seq (Parallel.text _ _))

/-- An insertion is written in the same steps in both dialects. -/
theorem parallel_write (hd : d.SameVerdicts d') (s : Insert) :
    Parallel (s.write d) (s.write d') := by
  refine Parallel.guarded (Parallel.guarded ?_)
  cases s.raggedRow? with
  | some row => exact Parallel.fault _
  | none =>
    refine (Parallel.text _ _).seq ((Parallel.name d d' s.table).seq ?_)
    refine (Parallel.text _ _).seq ((Parallel.names d d' s.columns).seq ?_)
    exact (Parallel.text _ _).seq (Parallel.commaList fun row _ ↦ parallel_writeRow hd row)

end Insert

namespace Select

theorem parallel_writeOrder (hd : d.SameVerdicts d') (item : Expr × Direction) :
    Parallel (writeOrder d item) (writeOrder d' item) :=
  (item.1.parallel_write hd .operand).seq ((Parallel.text _ _).seq (Parallel.text _ _))

theorem parallel_writeCondition (hd : d.SameVerdicts d') (g : WhereGroup) :
    Parallel (writeCondition d g) (writeCondition d' g) := by
  rw [writeCondition, writeCondition]
  cases g.isEmpty with
  | true => exact Parallel.nil
  | false => exact (Parallel.text _ _).seq (g.parallel_write hd)

theorem parallel_writeNumber (keyword : String) (n : Option UInt64) :
    Parallel (writeNumber keyword n) (writeNumber keyword n) := by
  cases n with
  | none => exact Parallel.nil
  | some n => exact (Parallel.text _ _).seq (Parallel.text _ _)

/-- A selection is written in the same steps in both dialects. -/
theorem parallel_write (hd : d.SameVerdicts d') (s : Select) :
    Parallel (s.write d) (s.write d') := by
  refine Parallel.guarded (Parallel.guarded ?_)
  refine (Parallel.text _ _).seq ((Parallel.optional s.distinct _).seq ?_)
  refine (Expr.parallel_commaList hd s.items .selectItem).seq ?_
  refine (Parallel.clause _ fun table _ ↦ Parallel.name d d' table).seq ?_
  refine (parallel_writeCondition hd s.condition).seq ?_
  refine (Expr.parallel_clause hd _ s.grouping .operand).seq ?_
  refine (Parallel.clause _ fun item _ ↦ parallel_writeOrder hd item).seq ?_
  exact (parallel_writeNumber _ s.limit).seq (parallel_writeNumber _ s.offset)

end Select

end

end SqlBuilder
