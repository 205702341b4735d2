import SqlBuilder.Proofs.Spelling.Condition

/-!
# The comparisons of a growing condition

A step appends its comparisons to those that were collected before. Folding what was collected into
a group of its own changes how the comparisons are joined and never their order.
-/

namespace SqlBuilder

namespace Predicate

mutual

/-- No group of the condition is empty. -/
def isFull : Predicate → Bool
  | .comparison _ => true
  | .group _ children => !children.isEmpty && isFullAll children

/-- No group of the conditions is empty. -/
def isFullAll : List Predicate → Bool
  | [] => true
  | p :: ps => p.isFull && isFullAll ps

end

theorem isFullAll_iff {ps : List Predicate} : isFullAll ps ↔ ∀ p ∈ ps, p.isFull := by
  induction ps with
  | nil => simp [isFullAll]
  | cons p ps ih => rw [isFullAll, Bool.and_eq_true, ih, List.forall_mem_cons]

theorem isFull_group_iff {c : Combinator} {children : List Predicate} :
    (group c children).isFull ↔ children ≠ [] ∧ ∀ p ∈ children, p.isFull := by
  rw [isFull, Bool.and_eq_true, isFullAll_iff]
  simp

/-- In a condition without empty groups something is compared. -/
theorem leaves_ne_nil {p : Predicate} (hp : p.isFull) : p.leaves ≠ [] := by
  induction p using Predicate.induction with
  | comparison c => simp [leaves]
  | group c children ih =>
    obtain ⟨hne, hall⟩ := isFull_group_iff.mp hp
    obtain ⟨p, ps, rfl⟩ := List.exists_cons_of_ne_nil hne
    have hleaves := ih p List.mem_cons_self (hall p List.mem_cons_self)
    simp [leaves, leavesAll, hleaves]

end Predicate

namespace WhereStep

/-- Induction on a step: a group may use the property of each of its inner steps. -/
@[elab_as_elim]
theorem induction {motive : WhereStep → Prop}
    (compare : ∀ combinator c, motive (.compare combinator c))
    (group : ∀ combinator steps, (∀ s ∈ steps, motive s) → motive (.group combinator steps))
    (push : ∀ combinator p, motive (.push combinator p)) : ∀ s, motive s
  | .compare combinator c => compare combinator c
  | .group combinator steps => group combinator steps fun s _ ↦ induction compare group push s
  | .push combinator p => push combinator p

/-- The combinator of a step. -/
def combinator : WhereStep → Combinator
  | .compare combinator _ => combinator
  | .group combinator _ => combinator
  | .push combinator _ => combinator

mutual

/-- The comparisons of a step from left to right. -/
def leaves : WhereStep → List Comparison
  | .compare _ c => [c]
  | .group _ inner => leavesAll inner
  | .push _ p => p.leaves

/-- The comparisons of steps from left to right. -/
def leavesAll : List WhereStep → List Comparison
  | [] => []
  | s :: ss => s.leaves ++ leavesAll ss

end

mutual

/-- No group is empty of the conditions that the step joins as they are. -/
def isFull : WhereStep → Bool
  | .compare _ _ => true
  | .group _ inner => isFullAll inner
  | .push _ p => p.isFull

/-- No group is empty of the conditions that the steps join as they are. -/
def isFullAll : List WhereStep → Bool
  | [] => true
  | s :: ss => s.isFull && isFullAll ss

end

theorem isFullAll_iff {ss : List WhereStep} : isFullAll ss ↔ ∀ s ∈ ss, s.isFull := by
  induction ss with
  | nil => simp [isFullAll]
  | cons s ss ih => rw [isFullAll, Bool.and_eq_true, ih, List.forall_mem_cons]

theorem leavesAll_eq_flatMap (ss : List WhereStep) : leavesAll ss = ss.flatMap leaves := by
  induction ss with
  | nil => rfl
  | cons s ss ih => rw [leavesAll, ih, List.flatMap_cons]

end WhereStep

namespace WhereGroup

/-- The comparisons that were collected, from left to right. -/
def leaves (g : WhereGroup) : List Comparison :=
  g.children.flatMap Predicate.leaves

theorem flatMap_leaves_folded (g : WhereGroup) (combinator : Combinator) :
    (g.folded combinator).flatMap Predicate.leaves = g.leaves := by
  rw [folded]
  split
  · simp [Predicate.leaves, Predicate.leavesAll_eq_flatMap, leaves]
  · rfl

theorem leaves_push (g : WhereGroup) (combinator : Combinator) (p : Predicate) :
    (g.push combinator p).leaves = g.leaves ++ p.leaves := by
  rw [push, leaves, List.flatMap_append, flatMap_leaves_folded]
  simp

theorem children_push_ne_nil (g : WhereGroup) (combinator : Combinator) (p : Predicate) :
    (g.push combinator p).children ≠ [] := by
  simp [push]

/-- What was collected in a group of its own is pushed as one condition, or not at all. -/
theorem step_group (g : WhereGroup) (combinator : Combinator) (inner : List WhereStep) :
    g.step (.group combinator inner)
      = if (ofSteps inner).children = [] then g
        else g.push combinator (.group (ofSteps inner).combinator (ofSteps inner).children) := by
  rw [step, ← ofSteps, toPredicate?, isEmpty]
  by_cases h : (ofSteps inner).children = []
  · simp [h]
  · simp [h]

theorem leaves_group (combinator : Combinator) (g : WhereGroup) :
    (Predicate.group combinator g.children).leaves = g.leaves := by
  rw [Predicate.leaves, Predicate.leavesAll_eq_flatMap, leaves]

/-- If each of the steps appends its comparisons, then so do all together. -/
theorem leaves_steps_of_forall {ss : List WhereStep}
    (h : ∀ s ∈ ss, ∀ g : WhereGroup, (g.step s).leaves = g.leaves ++ s.leaves) (g : WhereGroup) :
    (g.steps ss).leaves = g.leaves ++ ss.flatMap WhereStep.leaves := by
  induction ss generalizing g with
  | nil => simp [steps]
  | cons s ss ih =>
    rw [List.forall_mem_cons] at h
    rw [steps, ih h.2, h.1 g, List.flatMap_cons, List.append_assoc]

/-- One step appends its comparisons. -/
theorem leaves_step (g : WhereGroup) (s : WhereStep) :
    (g.step s).leaves = g.leaves ++ s.leaves := by
  induction s using WhereStep.induction generalizing g with
  | compare combinator c => exact leaves_push g combinator (.comparison c)
  | push combinator p => exact leaves_push g combinator p
  | group combinator inner ih =>
    have hleaves : (ofSteps inner).leaves = inner.flatMap WhereStep.leaves :=
      leaves_steps_of_forall (fun s hs g ↦ ih s hs g) empty
    rw [step_group, WhereStep.leaves, WhereStep.leavesAll_eq_flatMap, ← hleaves]
    split
    · next hempty => simp [leaves, hempty]
    · rw [leaves_push, leaves_group]

/-- All steps append their comparisons in order. -/
theorem leaves_steps (g : WhereGroup) (ss : List WhereStep) :
    (g.steps ss).leaves = g.leaves ++ ss.flatMap WhereStep.leaves :=
  leaves_steps_of_forall (fun s _ g ↦ leaves_step g s) g

/-! ## Empty groups -/

/-- No group among what was collected is empty. -/
def IsFull (g : WhereGroup) : Prop :=
  ∀ p ∈ g.children, p.isFull

theorem isFull_empty : empty.IsFull := by
  simp [IsFull, empty]

/-- Folding makes no empty group and hides none. -/
theorem isFull_folded_iff (g : WhereGroup) (combinator : Combinator) :
    (∀ p ∈ g.folded combinator, p.isFull) ↔ g.IsFull := by
  rw [folded]
  split
  · next h =>
    -- A group that is folded has at least two children.
    have hne : g.children ≠ [] := List.length_pos_iff.mp (by omega)
    rw [List.forall_mem_singleton, Predicate.isFull_group_iff, and_iff_right hne]
    rfl
  · rfl

theorem isFull_push_iff {g : WhereGroup} {combinator : Combinator} {p : Predicate} :
    (g.push combinator p).IsFull ↔ g.IsFull ∧ p.isFull := by
  rw [IsFull, push, List.forall_mem_append, isFull_folded_iff, List.forall_mem_singleton]

theorem isFull_steps_iff_of_forall {ss : List WhereStep}
    (h : ∀ s ∈ ss, ∀ g : WhereGroup, (g.step s).IsFull ↔ g.IsFull ∧ s.isFull) (g : WhereGroup) :
    (g.steps ss).IsFull ↔ g.IsFull ∧ ∀ s ∈ ss, s.isFull := by
  induction ss generalizing g with
  | nil => simp [steps]
  | cons s ss ih =>
    rw [List.forall_mem_cons] at h
    rw [steps, ih h.2, h.1, List.forall_mem_cons, and_assoc]

theorem isFull_step_iff (g : WhereGroup) (s : WhereStep) :
    (g.step s).IsFull ↔ g.IsFull ∧ s.isFull := by
  induction s using WhereStep.induction generalizing g with
  | compare combinator c => exact isFull_push_iff
  | push combinator p => exact isFull_push_iff
  | group combinator inner ih =>
    have hinner : (ofSteps inner).IsFull ↔ WhereStep.isFullAll inner := by
      rw [ofSteps, isFull_steps_iff_of_forall ih, and_iff_right isFull_empty,
        WhereStep.isFullAll_iff]
    rw [step_group, WhereStep.isFull, ← hinner]
    split
    · next hempty => simp [IsFull, hempty]
    · next hne =>
      rw [isFull_push_iff, Predicate.isFull_group_iff, and_iff_right hne, IsFull, IsFull]

/-- Steps leave an empty group exactly if one was there or was given. -/
theorem isFull_steps_iff (g : WhereGroup) (ss : List WhereStep) :
    (g.steps ss).IsFull ↔ g.IsFull ∧ ∀ s ∈ ss, s.isFull :=
  isFull_steps_iff_of_forall (fun s _ g ↦ isFull_step_iff g s) g

theorem isFull_ofSteps_iff {ss : List WhereStep} : (ofSteps ss).IsFull ↔ ∀ s ∈ ss, s.isFull :=
  (isFull_steps_iff empty ss).trans (and_iff_right isFull_empty)

/-- Steps without empty groups leave none. -/
theorem IsFull.steps {g : WhereGroup} (hg : g.IsFull) {ss : List WhereStep}
    (hss : ∀ s ∈ ss, s.isFull) : (g.steps ss).IsFull :=
  (isFull_steps_iff g ss).mpr ⟨hg, hss⟩

/-- Without empty groups something was collected exactly if something is compared. -/
theorem IsFull.leaves_eq_nil_iff {g : WhereGroup} (hg : g.IsFull) :
    g.leaves = [] ↔ g.children = [] := by
  constructor
  · intro h
    by_contra hne
    obtain ⟨p, ps, hchildren⟩ := List.exists_cons_of_ne_nil hne
    have hp : p.isFull := hg p (by simp [hchildren])
    simp [leaves, hchildren, Predicate.leaves_ne_nil hp] at h
  · intro h
    simp [leaves, h]

theorem operands_eq_flatMap (g : WhereGroup) :
    g.operands = g.leaves.flatMap Comparison.operands := by
  rw [operands, Predicate.operandsAll, leaves, List.flatMap_assoc]
  rfl

end WhereGroup

end SqlBuilder
