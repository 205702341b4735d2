import SqlBuilder.Proofs.Condition.Leaves

/-!
# How the groups of a condition come about

A group in a condition that grew by steps was opened by a step, or is part of a tree that a step
joined as it was, or holds what was collected before the combinator changed. The tree does not tell
these apart. Here the same steps are taken on trees that remember, and forgetting again gives the
trees of `WhereGroup.steps`, so what is found out about the groups that grew is true of them there.

## The invariant

A group is settled if what it holds of its own past stands in front, is not alone there and has the
other combinator. A push keeps this. Either nothing is folded, and then the combinator stays unless
at most one child was there, in which case nothing was folded before; or everything is folded, and
then the group has two children, the first of which is the old group. With at most one child the
combinator is still the one that every group begins with, because the first step does not set it.
-/

namespace SqlBuilder

/-! ## Trees that remember -/

/-- How a group came about. -/
inductive Origin where
  /-- A step opened it. -/
  | opened
  /-- The combinator changed, and the group holds what was collected before. -/
  | folded
deriving DecidableEq, Repr

/-- A condition that remembers how its groups came about. -/
inductive Grown where
  /-- A comparison. -/
  | comparison (c : Comparison)
  /-- A tree that was joined as it was. -/
  | given (p : Predicate)
  /-- A group that grew. -/
  | group (origin : Origin) (combinator : Combinator) (children : List Grown)

/-- A growing condition that remembers how its groups came about. -/
structure Growth where
  /-- How the children are joined. -/
  combinator : Combinator := .and
  /-- The conditions collected so far. -/
  children : List Grown := []

namespace Grown

mutual

/-- The condition without its past. -/
def erased : Grown → Predicate
  | .comparison c => .comparison c
  | .given p => p
  | .group _ combinator children => .group combinator (erasedAll children)

/-- The conditions without their past. -/
def erasedAll : List Grown → List Predicate
  | [] => []
  | t :: ts => t.erased :: erasedAll ts

end

mutual

/-- The groups that grew in a condition, at every depth. -/
def groups : Grown → List Growth
  | .comparison _ => []
  | .given _ => []
  | .group _ combinator children => { combinator, children } :: groupsAll children

/-- The groups that grew in conditions, at every depth. -/
def groupsAll : List Grown → List Growth
  | [] => []
  | t :: ts => t.groups ++ groupsAll ts

end

theorem erasedAll_eq_map (ts : List Grown) : erasedAll ts = ts.map erased := by
  induction ts with
  | nil => rfl
  | cons t ts ih => rw [erasedAll, ih, List.map_cons]

theorem groupsAll_eq_flatMap (ts : List Grown) : groupsAll ts = ts.flatMap groups := by
  induction ts with
  | nil => rfl
  | cons t ts ih => rw [groupsAll, ih, List.flatMap_cons]

/-- The condition is a group that holds what was collected before the combinator changed. -/
def IsFolded (t : Grown) : Prop :=
  ∃ combinator children, t = group .folded combinator children

end Grown

namespace Growth

/-- The growing condition without its past. -/
def erased (g : Growth) : WhereGroup where
  combinator := g.combinator
  children := g.children.map Grown.erased

/-- All groups that grew, the one at hand included. -/
def groups (g : Growth) : List Growth :=
  g :: g.children.flatMap Grown.groups

/-- What was collected, as the children of a group that goes on with the given combinator. -/
def folded (g : Growth) (combinator : Combinator) : List Grown :=
  if 2 ≤ g.children.length ∧ combinator ≠ g.combinator then
    [.group .folded g.combinator g.children]
  else g.children

/-- Joins one more condition to all that was collected. -/
def push (g : Growth) (combinator : Combinator) (t : Grown) : Growth where
  combinator := if g.children.isEmpty then g.combinator else combinator
  children := g.folded combinator ++ [t]

/-- Joins what was collected in a group of its own, if there is any. -/
def pushGroup (g : Growth) (combinator : Combinator) (inner : Growth) : Growth :=
  if inner.children.isEmpty then g
  else g.push combinator (.group .opened inner.combinator inner.children)

mutual

/-- The group after a step. -/
def step (g : Growth) : WhereStep → Growth
  | .compare combinator c => g.push combinator (.comparison c)
  | .group combinator inner => g.pushGroup combinator (steps {} inner)
  | .push combinator p => g.push combinator (.given p)

/-- The group after steps, in their order. -/
def steps (g : Growth) : List WhereStep → Growth
  | [] => g
  | s :: ss => steps (g.step s) ss

end

/-- The group that grows from nothing by steps. -/
def ofSteps (ss : List WhereStep) : Growth :=
  steps {} ss

/-! ## Forgetting the past -/

theorem erased_push (g : Growth) (combinator : Combinator) (t : Grown) :
    (g.push combinator t).erased = g.erased.push combinator t.erased := by
  have hfolded : (g.folded combinator).map Grown.erased = g.erased.folded combinator := by
    rw [folded, WhereGroup.folded, erased, List.length_map]
    split
    · rw [List.map_singleton, Grown.erased, Grown.erasedAll_eq_map]
    · rfl
  rw [push, WhereGroup.push, erased, ← hfolded, List.map_append, List.map_singleton]
  simp [erased]

theorem erased_pushGroup (g : Growth) (combinator : Combinator) (inner : Growth) :
    (g.pushGroup combinator inner).erased
      = if inner.erased.children = [] then g.erased
        else g.erased.push combinator
          (.group inner.erased.combinator inner.erased.children) := by
  rw [pushGroup]
  by_cases h : inner.children = []
  · simp [erased, h]
  · rw [if_neg (by simpa using h), if_neg (by simpa [erased] using h), erased_push, Grown.erased,
      Grown.erasedAll_eq_map]
    rfl

/-- If each of the steps forgets what it has to, then so do all together. -/
theorem erased_steps_of_forall {ss : List WhereStep}
    (h : ∀ s ∈ ss, ∀ g : Growth, (g.step s).erased = g.erased.step s) (g : Growth) :
    (g.steps ss).erased = g.erased.steps ss := by
  induction ss generalizing g with
  | nil => rfl
  | cons s ss ih =>
    rw [List.forall_mem_cons] at h
    rw [steps, ih h.2, h.1, WhereGroup.steps]

theorem erased_step (g : Growth) (s : WhereStep) : (g.step s).erased = g.erased.step s := by
  induction s using WhereStep.induction generalizing g with
  | compare combinator c => exact erased_push g combinator (.comparison c)
  | push combinator p => exact erased_push g combinator (.given p)
  | group combinator inner ih =>
    have hinner : (steps {} inner).erased = WhereGroup.ofSteps inner :=
      erased_steps_of_forall (fun s hs g ↦ ih s hs g) {}
    rw [step, erased_pushGroup, hinner, WhereGroup.step_group]

/-- The trees are those of the program. -/
theorem erased_ofSteps (ss : List WhereStep) : (ofSteps ss).erased = WhereGroup.ofSteps ss :=
  erased_steps_of_forall (fun s _ g ↦ erased_step g s) {}

/-! ## The invariant -/

/-- What the group holds of its own past stands in front and is joined to something by the other
combinator, and the group keeps the combinator it began with while there is nothing to join. -/
structure IsSettled (g : Growth) : Prop where
  /-- What was folded is the first child. -/
  first : ∀ i t, g.children[i]? = some t → t.IsFolded → i = 0
  /-- It is not the only one. -/
  joined : ∀ t ∈ g.children, t.IsFolded → 2 ≤ g.children.length
  /-- It has at least two children itself. -/
  length : ∀ combinator children, .group .folded combinator children ∈ g.children →
    2 ≤ children.length
  /-- Its combinator is the other one. -/
  combinator_ne : ∀ combinator children, .group .folded combinator children ∈ g.children →
    combinator ≠ g.combinator
  /-- With at most one child the combinator is not set yet. -/
  combinator_eq : g.children.length ≤ 1 → g.combinator = .and

theorem isSettled_empty : ({} : Growth).IsSettled where
  first := by simp
  joined := by simp
  length := by simp
  combinator_ne := by simp
  combinator_eq _ := rfl

variable {g : Growth} {combinator : Combinator} {t : Grown}

/-- Where everything is folded, two children are left. -/
theorem IsSettled.push_of_folds (ht : ¬t.IsFolded) (hlength : 2 ≤ g.children.length)
    (hne : combinator ≠ g.combinator) : (g.push combinator t).IsSettled := by
  have hchildren : (g.push combinator t).children
      = [.group .folded g.combinator g.children, t] := by
    change g.folded combinator ++ [t] = _
    rw [folded, if_pos ⟨hlength, hne⟩]
    rfl
  have hcombinator : (g.push combinator t).combinator = combinator := by
    have hnonempty : g.children ≠ [] := List.length_pos_iff.mp (by omega)
    simp [push, hnonempty]
  have hfolded : ∀ c ts, .group .folded c ts ∈ (g.push combinator t).children →
      c = g.combinator ∧ ts = g.children := by
    intro c ts hmem
    rw [hchildren, List.mem_cons, List.mem_singleton] at hmem
    rcases hmem with hold | rfl
    · obtain ⟨-, rfl, rfl⟩ := Grown.group.inj hold
      exact ⟨rfl, rfl⟩
    · exact absurd ⟨c, ts, rfl⟩ ht
  constructor
  · intro i u hu hfold
    rw [hchildren] at hu
    match i with
    | 0 => rfl
    | 1 =>
      obtain rfl := Option.some.inj hu
      exact absurd hfold ht
    | i + 2 => simp at hu
  · intro _ _ _
    rw [hchildren]
    simp
  · intro c ts hmem
    rw [(hfolded c ts hmem).2]
    exact hlength
  · intro c ts hmem
    rw [(hfolded c ts hmem).1, hcombinator]
    exact hne.symm
  · intro hshort
    simp [hchildren] at hshort

/-- Where nothing is folded, the combinator does not change if something was folded before. -/
theorem IsSettled.push_of_keeps (hg : g.IsSettled) (ht : ¬t.IsFolded)
    (hkeep : ¬(2 ≤ g.children.length ∧ combinator ≠ g.combinator)) :
    (g.push combinator t).IsSettled := by
  have hchildren : (g.push combinator t).children = g.children ++ [t] := by
    rw [push, folded, if_neg hkeep]
  have hold : ∀ u, u ∈ (g.push combinator t).children → u.IsFolded → u ∈ g.children := by
    intro u hu hfold
    rw [hchildren, List.mem_append, List.mem_singleton] at hu
    exact hu.resolve_right fun hut ↦ ht (hut ▸ hfold)
  have hcombinator : 2 ≤ g.children.length → (g.push combinator t).combinator = g.combinator := by
    intro hlength
    have hsame : combinator = g.combinator := by
      by_contra hne
      exact hkeep ⟨hlength, hne⟩
    simp [push, hsame]
  constructor
  · intro i u hu hfold
    rw [hchildren] at hu
    by_cases hi : i < g.children.length
    · rw [List.getElem?_append_left hi] at hu
      exact hg.first i u hu hfold
    · have hut : u = t := by
        rw [List.getElem?_append_right (Nat.not_lt.mp hi)] at hu
        exact List.mem_singleton.mp (List.mem_of_getElem? hu)
      exact absurd (hut ▸ hfold) ht
  · intro u hu hfold
    have hlength := hg.joined u (hold u hu hfold) hfold
    rw [hchildren, List.length_append]
    omega
  · intro c ts hmem
    exact hg.length c ts (hold _ hmem ⟨c, ts, rfl⟩)
  · intro c ts hmem
    have hmem' := hold _ hmem ⟨c, ts, rfl⟩
    rw [hcombinator (hg.joined _ hmem' ⟨c, ts, rfl⟩)]
    exact hg.combinator_ne c ts hmem'
  · intro hshort
    -- The condition is the first one, and the first one does not set the combinator.
    have hempty : g.children = [] := by
      rw [hchildren, List.length_append, List.length_singleton] at hshort
      exact List.length_eq_zero_iff.mp (by omega)
    simp only [push, hempty, List.isEmpty_nil, if_true]
    exact hg.combinator_eq (by simp [hempty])

theorem IsSettled.push (hg : g.IsSettled) (ht : ¬t.IsFolded) : (g.push combinator t).IsSettled := by
  by_cases hfolds : 2 ≤ g.children.length ∧ combinator ≠ g.combinator
  · exact IsSettled.push_of_folds ht hfolds.1 hfolds.2
  · exact hg.push_of_keeps ht hfolds

/-! ## All groups that grew -/

/-- Every group that grew is settled. -/
def AllSettled (g : Growth) : Prop :=
  ∀ h ∈ g.groups, h.IsSettled

/-- A push makes no group but the one at hand. -/
theorem mem_groups_push {h : Growth} (hh : h ∈ (g.push combinator t).groups) :
    h = g.push combinator t ∨ h ∈ g.groups ∨ h ∈ t.groups := by
  have hfolded : ∀ h ∈ (g.folded combinator).flatMap Grown.groups, h ∈ g.groups := by
    intro h hh
    rw [folded] at hh
    split at hh
    · simpa [Grown.groups, Grown.groupsAll_eq_flatMap, groups] using hh
    · exact List.mem_cons_of_mem g hh
  rw [groups, List.mem_cons, push, List.flatMap_append, List.mem_append] at hh
  rcases hh with hself | hold | hnew
  · exact Or.inl hself
  · exact Or.inr (Or.inl (hfolded h hold))
  · exact Or.inr (Or.inr (by simpa using hnew))

theorem AllSettled.push (hg : g.AllSettled) (ht : ¬t.IsFolded)
    (hgroups : ∀ h ∈ t.groups, h.IsSettled) : (g.push combinator t).AllSettled := by
  intro h hh
  rcases mem_groups_push hh with rfl | hold | hnew
  · exact (hg g List.mem_cons_self).push ht
  · exact hg h hold
  · exact hgroups h hnew

theorem AllSettled.pushGroup {inner : Growth} (hg : g.AllSettled) (hinner : inner.AllSettled) :
    (g.pushGroup combinator inner).AllSettled := by
  rw [Growth.pushGroup]
  split
  · exact hg
  · refine hg.push (fun ⟨c, ts, h⟩ ↦ nomatch h) ?_
    rw [Grown.groups, Grown.groupsAll_eq_flatMap]
    exact hinner

theorem allSettled_empty : ({} : Growth).AllSettled := by
  intro h hh
  obtain rfl := List.mem_singleton.mp hh
  exact isSettled_empty

theorem allSettled_steps_of_forall {ss : List WhereStep}
    (h : ∀ s ∈ ss, ∀ g : Growth, g.AllSettled → (g.step s).AllSettled) (hg : g.AllSettled) :
    (g.steps ss).AllSettled := by
  induction ss generalizing g with
  | nil => exact hg
  | cons s ss ih =>
    rw [List.forall_mem_cons] at h
    exact ih h.2 (h.1 g hg)

/-- One step leaves every group settled. -/
theorem AllSettled.step (hg : g.AllSettled) (s : WhereStep) : (g.step s).AllSettled := by
  induction s using WhereStep.induction generalizing g with
  | compare combinator c => exact hg.push (fun ⟨c, ts, h⟩ ↦ nomatch h) (fun h hh ↦ nomatch hh)
  | push combinator p => exact hg.push (fun ⟨c, ts, h⟩ ↦ nomatch h) (fun h hh ↦ nomatch hh)
  | group combinator inner ih =>
    exact hg.pushGroup (allSettled_steps_of_forall (fun s hs g hg ↦ ih s hs hg) allSettled_empty)

theorem allSettled_ofSteps (ss : List WhereStep) : (ofSteps ss).AllSettled :=
  allSettled_steps_of_forall (fun s _ _ hg ↦ hg.step s) allSettled_empty

end Growth

/-! ## Steps that join nothing -/

namespace WhereStep

mutual

/-- The step opens groups and joins nothing in them. -/
def isSilent : WhereStep → Bool
  | .compare _ _ => false
  | .group _ inner => isSilentAll inner
  | .push _ _ => false

/-- The steps open groups and join nothing in them. -/
def isSilentAll : List WhereStep → Bool
  | [] => true
  | s :: ss => s.isSilent && isSilentAll ss

end

end WhereStep

namespace WhereGroup

/-- If each of the steps collects nothing only as a silent one, then so do all together. -/
theorem children_steps_eq_nil_iff_of_forall {ss : List WhereStep}
    (h : ∀ s ∈ ss, ∀ g : WhereGroup, (g.step s).children = [] ↔ g.children = [] ∧ s.isSilent)
    (g : WhereGroup) : (g.steps ss).children = [] ↔ g.children = [] ∧ WhereStep.isSilentAll ss := by
  induction ss generalizing g with
  | nil => simp [steps, WhereStep.isSilentAll]
  | cons s ss ih =>
    rw [List.forall_mem_cons] at h
    rw [steps, ih h.2, h.1, WhereStep.isSilentAll, Bool.and_eq_true, and_assoc]

theorem children_step_eq_nil_iff (g : WhereGroup) (s : WhereStep) :
    (g.step s).children = [] ↔ g.children = [] ∧ s.isSilent := by
  induction s using WhereStep.induction generalizing g with
  | compare combinator c =>
    exact iff_of_false (children_push_ne_nil g combinator _) fun h ↦ nomatch h.2
  | push combinator p =>
    exact iff_of_false (children_push_ne_nil g combinator _) fun h ↦ nomatch h.2
  | group combinator inner ih =>
    have hinner : (ofSteps inner).children = [] ↔ WhereStep.isSilentAll inner :=
      (children_steps_eq_nil_iff_of_forall ih empty).trans (and_iff_right rfl)
    rw [step_group, WhereStep.isSilent, ← hinner]
    split
    · next hempty => exact (and_iff_left hempty).symm
    · next hne => exact iff_of_false (children_push_ne_nil g combinator _) fun h ↦ hne h.2

/-- Steps collect nothing exactly if they join nothing. -/
theorem children_ofSteps_eq_nil_iff (ss : List WhereStep) :
    (ofSteps ss).children = [] ↔ WhereStep.isSilentAll ss :=
  (children_steps_eq_nil_iff_of_forall (fun s _ g ↦ children_step_eq_nil_iff g s) empty).trans
    (and_iff_right rfl)

/-! ## Growing conditions -/

/-- **Growth.** Behind any steps, a condition compares what the steps compare, in their order. Every
group in it that grew is settled, at every depth, so folding nests only to the left and always
alternates; and a group to which nothing is joined leaves no trace. Steps inside of a group are such
steps too, and so are the first few of them. -/
theorem grows_in_order (ss : List WhereStep) :
    (ofSteps ss).leaves = WhereStep.leavesAll ss ∧
      (Growth.ofSteps ss).erased = ofSteps ss ∧
      (∀ g ∈ (Growth.ofSteps ss).groups, g.IsSettled) ∧
      ((ofSteps ss).length ≤ 1 → (ofSteps ss).combinator = .and) ∧
      ∀ combinator inner, ((ofSteps inner).isEmpty ↔ WhereStep.isSilentAll inner) ∧
        ((ofSteps inner).isEmpty → (ofSteps ss).step (.group combinator inner) = ofSteps ss) := by
  have herased := Growth.erased_ofSteps ss
  have hsettled := Growth.allSettled_ofSteps ss
  refine ⟨?_, herased, hsettled, ?_, ?_⟩
  · rw [ofSteps, leaves_steps, WhereStep.leavesAll_eq_flatMap]
    rfl
  · rw [← herased, WhereGroup.length, Growth.erased, List.length_map]
    exact (hsettled _ List.mem_cons_self).combinator_eq
  · intro combinator inner
    rw [isEmpty, List.isEmpty_iff]
    constructor
    · exact children_ofSteps_eq_nil_iff inner
    · intro hempty
      rw [step_group, if_pos hempty]

/-- A change of the combinator folds what was collected, also inside of a group. -/
example (a b c : Comparison) :
    ofSteps [.compare .and a, .group .and [.compare .and b, .compare .or c, .compare .and a],
        .group .or [.group .and []]] =
      ⟨.and, [.comparison a,
        .group .and [.group .or [.comparison b, .comparison c], .comparison a]]⟩ := by
  rfl

end WhereGroup

end SqlBuilder
