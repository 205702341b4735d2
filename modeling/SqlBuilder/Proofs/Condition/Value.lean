import SqlBuilder.Proofs.Condition.Leaves
import SqlBuilder.Proofs.Condition.Truth

/-!
# What a growing condition means

SQL knows three truth values. A condition has a value once every occurrence of a comparison in it
has one; the occurrences are counted from left to right, because two equal comparisons may differ in
what they are evaluated to. A condition in which no comparison occurs has no value.

The steps of a growing condition mean a strict fold: each value is joined to that of everything to
its left. The tree that the steps build means the same. A step that changes the combinator puts what
was collected into a group of its own, which leaves its value as it is, and joining one more child
on the right is joining one more value on the right.
-/

namespace SqlBuilder

variable (ρ : Nat → Truth)

/-! ## Trees -/

namespace Predicate

mutual

/-- The value of a condition with `n` comparisons to its left. -/
def value (n : Nat) : Predicate → Option Truth
  | .comparison _ => some (ρ n)
  | .group combinator children => valueAll combinator n none children

/-- The value `v` of what stands to the left, after conditions that are joined to it one by one. -/
def valueAll (combinator : Combinator) (n : Nat) (v : Option Truth) : List Predicate → Option Truth
  | [] => v
  | p :: ps => valueAll combinator (n + p.leaves.length) (combinator.extend v (p.value n)) ps

end

theorem valueAll_append (combinator : Combinator) (n : Nat) (v : Option Truth)
    (ps qs : List Predicate) :
    valueAll ρ combinator n v (ps ++ qs)
      = valueAll ρ combinator (n + (leavesAll ps).length) (valueAll ρ combinator n v ps) qs := by
  induction ps generalizing n v with
  | nil => rfl
  | cons p ps ih =>
    rw [List.cons_append, valueAll, ih, valueAll, leavesAll, List.length_append, Nat.add_assoc]

/-- With fewer than two children there is nothing to join. -/
theorem valueAll_of_length_lt {ps : List Predicate} (h : ps.length < 2) (c c' : Combinator)
    (n : Nat) : valueAll ρ c n none ps = valueAll ρ c' n none ps := by
  match ps with
  | [] => rfl
  | [p] => rfl
  | _ :: _ :: _ =>
    simp only [List.length_cons] at h
    omega

end Predicate

namespace WhereGroup

/-- The value of what was collected, with `n` comparisons to its left. -/
def value (n : Nat) (g : WhereGroup) : Option Truth :=
  Predicate.valueAll ρ g.combinator n none g.children

theorem value_of_isEmpty {g : WhereGroup} (h : g.children = []) (n : Nat) : g.value ρ n = none := by
  rw [value, h, Predicate.valueAll]

/-- The children that go on with another combinator mean what was collected. -/
theorem valueAll_folded (g : WhereGroup) (combinator : Combinator) (n : Nat) :
    Predicate.valueAll ρ combinator n none (g.folded combinator) = g.value ρ n := by
  rw [folded]
  split
  · rfl
  · next hkeep =>
    by_cases hlength : g.children.length < 2
    · exact Predicate.valueAll_of_length_lt ρ hlength _ _ n
    · have hsame : combinator = g.combinator := by
        by_contra hne
        exact hkeep ⟨by omega, hne⟩
      rw [hsame, value]

/-- Joining one more condition joins one more value. -/
theorem value_push (g : WhereGroup) (combinator : Combinator) (p : Predicate) (n : Nat) :
    (g.push combinator p).value ρ n
      = combinator.extend (g.value ρ n) (p.value ρ (n + g.leaves.length)) := by
  by_cases hempty : g.children = []
  · -- The combinator of the first step is forgotten, and nothing is joined to its left.
    have hchildren : (g.push combinator p).children = [p] := by simp [push, folded, hempty]
    rw [value, hchildren, value_of_isEmpty ρ hempty, leaves, hempty]
    rfl
  · -- Folding has left the value and the comparisons of the children as they were.
    have hcombinator : (g.push combinator p).combinator = combinator := by simp [push, hempty]
    have hleaves : (Predicate.leavesAll (g.folded combinator)).length = g.leaves.length := by
      rw [Predicate.leavesAll_eq_flatMap, flatMap_leaves_folded]
    rw [value, hcombinator, push, Predicate.valueAll_append, valueAll_folded, hleaves]
    rfl

end WhereGroup

/-! ## Steps -/

namespace WhereStep

mutual

/-- The value of a step with `n` comparisons to its left. -/
def value (n : Nat) : WhereStep → Option Truth
  | .compare _ _ => some (ρ n)
  | .group _ inner => valueAll n none inner
  | .push _ p => p.value ρ n

/-- The value `v` of what stands to the left, after steps that are joined to it one by one, each
with its own combinator. -/
def valueAll (n : Nat) (v : Option Truth) : List WhereStep → Option Truth
  | [] => v
  | s :: ss => valueAll (n + s.leaves.length) (s.combinator.extend v (s.value n)) ss

end

end WhereStep

namespace WhereGroup

/-- If each of the steps joins its value, then all together mean their fold. -/
theorem value_steps_of_forall {ss : List WhereStep}
    (h : ∀ s ∈ ss, ∀ (g : WhereGroup) n,
      (g.step s).value ρ n = s.combinator.extend (g.value ρ n) (s.value ρ (n + g.leaves.length)))
    (g : WhereGroup) (n : Nat) :
    (g.steps ss).value ρ n = WhereStep.valueAll ρ (n + g.leaves.length) (g.value ρ n) ss := by
  induction ss generalizing g with
  | nil => rfl
  | cons s ss ih =>
    rw [List.forall_mem_cons] at h
    rw [steps, ih h.2, h.1, leaves_step, List.length_append, ← Nat.add_assoc, WhereStep.valueAll]

/-- One step joins its value. -/
theorem value_step (g : WhereGroup) (s : WhereStep) (n : Nat) :
    (g.step s).value ρ n = s.combinator.extend (g.value ρ n) (s.value ρ (n + g.leaves.length)) := by
  induction s using WhereStep.induction generalizing g n with
  | compare combinator c => exact value_push ρ g combinator (.comparison c) n
  | push combinator p => exact value_push ρ g combinator p n
  | group combinator inner ih =>
    -- What the inner steps build has no value exactly if they add nothing.
    have hinner (n : Nat) : (ofSteps inner).value ρ n = WhereStep.valueAll ρ n none inner := by
      rw [ofSteps, value_steps_of_forall ρ ih]
      rfl
    rw [step_group, WhereStep.combinator, WhereStep.value, ← hinner]
    split
    · next hempty => rw [value_of_isEmpty ρ hempty, Combinator.extend_none_right]
    · exact value_push ρ g combinator _ n

/-- All steps mean their fold. -/
theorem value_steps (g : WhereGroup) (ss : List WhereStep) (n : Nat) :
    (g.steps ss).value ρ n = WhereStep.valueAll ρ (n + g.leaves.length) (g.value ρ n) ss :=
  value_steps_of_forall ρ (fun s _ g n ↦ value_step ρ g s n) g n

/-- The condition that grows from nothing means the fold of its steps. -/
theorem value_ofSteps (ss : List WhereStep) :
    (ofSteps ss).value ρ 0 = WhereStep.valueAll ρ 0 none ss :=
  value_steps ρ empty ss 0

end WhereGroup

end SqlBuilder
