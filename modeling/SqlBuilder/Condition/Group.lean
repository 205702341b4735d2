import SqlBuilder.Condition.Basic

/-!
# Conditions step by step

A condition grows from left to right, each step joining one more condition to all that came before.
As long as the combinator stays the same the steps are children of one group. When it changes, what
was collected becomes the first child of a new group, so that the steps mean the same as if every
one of them had put parentheses around all before it.

A step may open a group of its own, which grows by its own steps. A group to which nothing was added
leaves no trace, not even of its combinator.
-/

namespace SqlBuilder

/-- A condition that still grows. -/
structure WhereGroup where
  /-- How the children are joined. -/
  combinator : Combinator := .and
  /-- The conditions collected so far. -/
  children : List Predicate := []

namespace WhereGroup

/-- The group without conditions. -/
def empty : WhereGroup := {}

/-- Nothing was collected. -/
def isEmpty (g : WhereGroup) : Bool :=
  g.children.isEmpty

/-- The number of children. -/
def length (g : WhereGroup) : Nat :=
  g.children.length

/-- What was collected, as the children of a group that goes on with the given combinator. The
combinator of a group with fewer than two children is not yet settled. -/
def folded (g : WhereGroup) (combinator : Combinator) : List Predicate :=
  if 2 ≤ g.children.length ∧ combinator ≠ g.combinator then [.group g.combinator g.children]
  else g.children

/-- Joins one more condition to all that was collected. -/
def push (g : WhereGroup) (combinator : Combinator) (p : Predicate) : WhereGroup where
  combinator := if g.children.isEmpty then g.combinator else combinator
  children := g.folded combinator ++ [p]

/-- The condition that was collected, if there is any. -/
def toPredicate? (g : WhereGroup) : Option Predicate :=
  if g.isEmpty then none else some (.group g.combinator g.children)

/-- Writes the conditions as they stand behind `WHERE`. -/
def write (d : Dialect) (g : WhereGroup) : Writer Unit :=
  Writer.joined (Predicate.separator g.combinator) (Predicate.writeAll d g.children)

end WhereGroup

/-- A step of a growing condition. -/
inductive WhereStep where
  /-- Joins a comparison. -/
  | compare (combinator : Combinator) (c : Comparison)
  /-- Joins a group that grows by its own steps. -/
  | group (combinator : Combinator) (steps : List WhereStep)
  /-- Joins a condition that is given as a tree. -/
  | push (combinator : Combinator) (p : Predicate)

namespace WhereGroup

mutual

/-- The group after a step. -/
def step (g : WhereGroup) : WhereStep → WhereGroup
  | .compare combinator c => g.push combinator (.comparison c)
  | .group combinator inner =>
    match (steps empty inner).toPredicate? with
    | some p => g.push combinator p
    | none => g
  | .push combinator p => g.push combinator p

/-- The group after steps, in their order. -/
def steps (g : WhereGroup) : List WhereStep → WhereGroup
  | [] => g
  | s :: ss => steps (g.step s) ss

end

/-- The group that grows from nothing by steps. -/
def ofSteps (ss : List WhereStep) : WhereGroup :=
  steps empty ss

end WhereGroup

end SqlBuilder
