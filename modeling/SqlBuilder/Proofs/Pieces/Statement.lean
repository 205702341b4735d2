import SqlBuilder.Draft
import SqlBuilder.Proofs.Pieces.Realizes

/-!
# Statements as fragments

The query of a statement spells out the fragment that its writer realizes, so what is true of all
fragments is true of all statements.
-/

namespace SqlBuilder

open Writer

/-- Statements with a fragment that their writer realizes. -/
class Fragmented (α : Type) {κ : outParam Type} [Statement α κ] where
  /-- The statement as it is written. -/
  fragment : Dialect → α → Except BuildError Fragment
  /-- Writing the statement agrees with writing its pieces. -/
  realizes : ∀ (d : Dialect) (a : α), Realizes d (Statement.write d a) (fragment d a)

/-- The query of a statement spells its fragment out. -/
theorem Statement.toQuery_eq {α κ : Type} [Statement α κ] [Fragmented α] (d : Dialect) (a : α) :
    toQuery d a = (do return (← Fragmented.fragment d a).toQuery d) :=
  (Fragmented.realizes d a).query_eq

/-- What is known of the fragment tells the query. -/
theorem Statement.toQuery_of_fragment {α κ : Type} [Statement α κ] [Fragmented α] {d : Dialect}
    {a : α} {x : Except BuildError Fragment} (h : Fragmented.fragment d a = x) :
    toQuery d a = (do return (← x).toQuery d) := by
  rw [toQuery_eq, h]

/-- A query spells out a fragment. -/
theorem Statement.exists_fragment_of_eq_ok {α κ : Type} [Statement α κ] [Fragmented α]
    {d : Dialect} {a : α} {q : Query} (h : toQuery d a = .ok q) :
    ∃ f, Fragmented.fragment d a = .ok f ∧ q = f.toQuery d := by
  rw [toQuery_eq] at h
  exact bind_pure_eq_ok_iff.mp h

end SqlBuilder
