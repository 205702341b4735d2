import SqlBuilder.Proofs.Pieces.Statement

/-!
# One clause, one query

What one more clause does to a draft, and when a draft gives something. A clause is taken only by a
draft that was not rendered, and only if the dialect accepts it.
-/

namespace SqlBuilder

namespace Draft

variable {α κ β : Type} [Statement α κ] {d : Dialect} {b : Draft α}

/-! ## One more clause -/

/-- A clause changes the content only if it is accepted. -/
theorem content_add (b : Draft α) (c : κ) :
    (b.add d c).content = b.content ∨
      Statement.accept d b.content c = .ok (b.add d c).content := by
  rw [add]
  cases b.stage with
  | rendered => exact Or.inl rfl
  | building =>
    cases haccept : Statement.accept d b.content c with
    | ok content => exact Or.inr rfl
    | error e => exact Or.inl rfl

/-- A clause neither renders a draft nor takes that back. -/
theorem stage_add (d : Dialect) (b : Draft α) (c : κ) : (b.add d c).stage = b.stage := by
  rw [add]
  cases hstage : b.stage with
  | rendered => exact hstage
  | building =>
    cases Statement.accept d b.content c with
    | ok content => rfl
    | error e => exact hstage

/-- A spent draft takes no clause. -/
theorem content_add_of_rendered (h : b.stage = .rendered) (d : Dialect) (c : κ) :
    (b.add d c).content = b.content := by
  rw [add, h]
  rfl

/-! ## What a draft gives -/

theorem preview_eq_ok_iff {build : α → Except BuildError β} {x : β} :
    b.preview build = .ok x ↔ b.stage = .building ∧ b.refusal = none ∧ build b.content = .ok x := by
  rw [preview]
  cases b.stage with
  | rendered => simp
  | building =>
    cases b.refusal with
    | none => simp
    | some e => simp

/-- A draft that gives a query gives the fragment of its content spelled out. -/
theorem exists_fragment_of_toQuery [Fragmented α] {q : Query} (h : b.toQuery d = .ok q) :
    ∃ f, Fragmented.fragment d b.content = .ok f ∧ q = f.toQuery d := by
  obtain ⟨-, -, h⟩ := preview_eq_ok_iff.mp h
  exact Statement.exists_fragment_of_eq_ok h

/-- A spent draft gives nothing. -/
theorem preview_of_rendered (h : b.stage = .rendered) (build : α → Except BuildError β) :
    b.preview build = .error (.alreadyRendered (Statement.kind α)) := by
  rw [preview, h]

end Draft

end SqlBuilder
