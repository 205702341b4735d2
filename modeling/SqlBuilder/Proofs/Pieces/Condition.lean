import SqlBuilder.Condition.Group
import SqlBuilder.Proofs.Pieces.Expr

/-!
# Conditions as fragments

Around the operands of its comparisons a condition writes texts only, so it fails exactly where an
operand does.
-/

namespace SqlBuilder

open Writer

variable {d : Dialect}

/-! ## Comparisons -/

/-- The comparison as it is written. -/
def Comparison.fragment (d : Dialect) (c : Comparison) : Except BuildError Fragment := do
  let left ← c.left.fragment d .operand
  let right ← c.right.fragment d .operand
  return left ++ .text " " :: .text c.operator.symbol :: .text " " :: right

theorem Comparison.realizes_write (c : Comparison) : Realizes d (c.write d) (c.fragment d) := by
  have hright := (Realizes.text " ").seq (c.right.realizes_write (d := d) .operand)
  have hbehind := (Realizes.text " ").seq ((Realizes.text c.operator.symbol).seq hright)
  refine ((c.left.realizes_write .operand).seq hbehind).congr ?_
  simp only [fragment, bind_assoc, pure_bind, ok_bind, List.singleton_append]

namespace Predicate

/-! ## Conditions -/

/-- Parentheses around a group of the given size, if it needs them. -/
def enclosed (size : Nat) (f : Fragment) : Fragment :=
  if 1 < size then .text "(" :: (f ++ [.text ")"]) else f

variable (d) in
mutual

/-- The condition as it is written inside another one. -/
def fragment : Predicate → Except BuildError Fragment
  | .comparison c => c.fragment d
  | .group combinator children => do
    let fs ← fragments children
    return enclosed children.length (Fragment.joined (separator combinator) fs)

/-- The conditions as each is written. -/
def fragments : List Predicate → Except BuildError (List Fragment)
  | [] => .ok []
  | p :: ps => do
    let f ← p.fragment
    let fs ← fragments ps
    return f :: fs

end

/-- Induction on a condition: a group may use the property of each of its children. -/
@[elab_as_elim]
theorem induction {motive : Predicate → Prop} (comparison : ∀ c, motive (.comparison c))
    (group : ∀ combinator children, (∀ p ∈ children, motive p) →
      motive (.group combinator children)) :
    ∀ p, motive p
  | .comparison c => comparison c
  | .group combinator children => group combinator children fun p _ ↦ induction comparison group p

theorem fragments_eq_mapM (ps : List Predicate) : fragments d ps = ps.mapM (fragment d) := by
  induction ps with
  | nil => rfl
  | cons p ps ih =>
    rw [fragments, List.mapM_cons, ih]

theorem writeAll_eq_map (ps : List Predicate) : writeAll d ps = ps.map (write d) := by
  induction ps with
  | nil => rfl
  | cons p ps ih => rw [writeAll, List.map_cons, ih]

theorem realizes_writeEnclosed {w : Writer Unit} {x : Except BuildError Fragment}
    (h : Realizes d w x) (size : Nat) :
    Realizes d (writeEnclosed size w) (do return enclosed size (← x)) := by
  by_cases hsize : 1 < size
  · rw [writeEnclosed, if_pos hsize]
    refine ((Realizes.text "(").seq (h.seq (Realizes.text ")"))).congr ?_
    simp only [bind_assoc, pure_bind, ok_bind, List.singleton_append, enclosed, if_pos hsize]
  · rw [writeEnclosed, if_neg hsize]
    refine h.congr ?_
    simp only [enclosed, if_neg hsize, bind_pure]

/-- Writing a condition agrees with writing its pieces. -/
theorem realizes_write (p : Predicate) : Realizes d (p.write d) (p.fragment d) := by
  induction p using Predicate.induction with
  | comparison c =>
    rw [write, fragment]
    exact c.realizes_write
  | group combinator children ih =>
    rw [write, fragment, writeAll_eq_map, fragments_eq_mapM]
    refine (realizes_writeEnclosed (Realizes.joined (separator combinator) ih) _).congr ?_
    simp only [bind_assoc, pure_bind]

end Predicate

/-! ## Growing conditions -/

namespace WhereGroup

/-- The conditions as they stand behind `WHERE`. -/
def fragment (d : Dialect) (g : WhereGroup) : Except BuildError Fragment :=
  return Fragment.joined (Predicate.separator g.combinator) (← Predicate.fragments d g.children)

theorem realizes_write (g : WhereGroup) : Realizes d (g.write d) (g.fragment d) := by
  rw [write, fragment, Predicate.writeAll_eq_map, Predicate.fragments_eq_mapM]
  exact Realizes.joined _ fun p _ ↦ p.realizes_write

end WhereGroup

end SqlBuilder
