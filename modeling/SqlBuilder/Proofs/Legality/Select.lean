import SqlBuilder.Proofs.Condition.Leaves
import SqlBuilder.Proofs.Drafting.Batch
import SqlBuilder.Proofs.Legality.Expr

/-!
# Which selections are legal

A selection is legal if it has something to select, no offset without a limit, and everything in it
is legal in its place; the shape of its condition does not matter, only the comparisons in it. These
are the selections that render. What is reported of the others is the first of their faults, where
what is missing as a whole comes before everything else and the rest is in the order of the text.
-/

namespace SqlBuilder

variable {d : Dialect} {objection : Literal → Option BuildError}

/-! ## Conditions -/

/-- Everything that is wrong with a comparison, in the order of its text. -/
def Comparison.faults (objection : Literal → Option BuildError) (c : Comparison) :
    List BuildError :=
  c.left.faults objection .operand ++ c.right.faults objection .operand

theorem Comparison.reportsFirst (c : Comparison) :
    ReportsFirst (c.fragment d) (c.faults d.objection?) :=
  (c.left.reportsFirst .operand).bind fun _ _ ↦ (c.right.reportsFirst .operand).bind_pure _

/-- Only the comparisons in a condition can be at fault. -/
theorem Predicate.reportsFirst (p : Predicate) :
    ReportsFirst (p.fragment d) (p.leaves.flatMap (Comparison.faults d.objection?)) := by
  induction p using Predicate.induction with
  | comparison c =>
    rw [leaves, List.flatMap_singleton]
    exact c.reportsFirst
  | group combinator children ih =>
    rw [fragment, fragments_eq_mapM, leaves, leavesAll_eq_flatMap, List.flatMap_assoc]
    exact (ReportsFirst.mapM ih).bind_pure _

theorem WhereGroup.reportsFirst (g : WhereGroup) :
    ReportsFirst (g.fragment d) (g.leaves.flatMap (Comparison.faults d.objection?)) := by
  rw [fragment, Predicate.fragments_eq_mapM, leaves, List.flatMap_assoc]
  exact (ReportsFirst.mapM fun p _ ↦ p.reportsFirst).bind_pure _

namespace Select

theorem reportsFirst_conditionFragment (g : WhereGroup) :
    ReportsFirst (conditionFragment d g)
      (g.leaves.flatMap (Comparison.faults d.objection?)) := by
  rw [conditionFragment]
  by_cases hempty : g.isEmpty
  · rw [if_pos hempty]
    have hleaves : g.leaves = [] := by
      rw [WhereGroup.isEmpty, List.isEmpty_iff] at hempty
      simp [WhereGroup.leaves, hempty]
    rw [hleaves]
    exact reportsFirst_ok []
  · rw [if_neg hempty]
    exact g.reportsFirst.bind_pure _

/-! ## Selections -/

/-- Everything that is wrong with a selection: what is missing as a whole, then the rest in the
order of the text. -/
def faults (objection : Literal → Option BuildError) (s : Select) : List BuildError :=
  faultIf (s.items = []) (.noColumns .select)
    ++ (faultIf (s.offset.isSome ∧ s.limit.isNone) (.missingClause .select .limit)
    ++ (s.items.flatMap (Expr.faults objection .selectItem)
    ++ (s.tables.flatMap nameFaults
    ++ (s.condition.leaves.flatMap (Comparison.faults objection)
    ++ (s.grouping.flatMap (Expr.faults objection .operand)
    ++ s.ordering.flatMap fun item ↦ item.1.faults objection .operand)))))

/-- Writing a selection reports the first of its faults. -/
theorem reportsFirst (s : Select) : ReportsFirst (s.fragment d) (s.faults d.objection?) := by
  have horder (item : Expr × Direction) :
      ReportsFirst (orderFragment d item) (item.1.faults d.objection? .operand) :=
    (item.1.reportsFirst .operand).bind_pure _
  rw [fragment]
  simp only [throw_bind, List.isEmpty_iff, Bool.and_eq_true]
  refine .check fun _ ↦ .check fun _ ↦ ?_
  refine (Expr.reportsFirst_fragments s.items .selectItem).bind fun _ _ ↦ ?_
  refine (ReportsFirst.mapM fun table _ ↦ Fragment.reportsFirst_ofName table).bind fun _ _ ↦ ?_
  refine (reportsFirst_conditionFragment s.condition).bind fun _ _ ↦ ?_
  refine (Expr.reportsFirst_fragments s.grouping .operand).bind fun _ _ ↦ ?_
  exact (ReportsFirst.mapM fun item _ ↦ horder item).bind_pure _

/-- The selection is legal, if that is what is held against literals. -/
structure IsLegal (objection : Literal → Option BuildError) (s : Select) : Prop where
  /-- Something is selected. -/
  items_ne_nil : s.items ≠ []
  /-- No offset stands without a limit. -/
  limited : s.offset.isSome → s.limit.isSome
  /-- Every table has a name. -/
  tables : ∀ table ∈ s.tables, table ≠ ""
  /-- The items are legal. -/
  items : ∀ e ∈ s.items, e.IsLegal objection .selectItem
  /-- The two sides of every comparison are legal. -/
  condition : ∀ c ∈ s.condition.leaves, c.left.IsLegal objection .operand ∧
    c.right.IsLegal objection .operand
  /-- The grouping is legal. -/
  grouping : ∀ e ∈ s.grouping, e.IsLegal objection .operand
  /-- The ordering is legal. -/
  ordering : ∀ item ∈ s.ordering, item.1.IsLegal objection .operand

variable {σ ρ ε : Type} [Connection σ ρ ε] {db : Database σ}

end Select

end SqlBuilder
