import SqlBuilder.Condition.Basic

/-!
# Truth values

SQL knows three truth values: a comparison with an absent value is neither true nor false.
-/

namespace SqlBuilder

/-- The truth values of SQL. -/
inductive Truth where
  | false
  | unknown
  | true
deriving DecidableEq, Repr

/-- The less true one of two. -/
def Truth.and : Truth → Truth → Truth
  | .true, v => v
  | .false, _ => .false
  | .unknown, .false => .false
  | .unknown, _ => .unknown

/-- The truer one of two. -/
def Truth.or : Truth → Truth → Truth
  | .false, v => v
  | .true, _ => .true
  | .unknown, .true => .true
  | .unknown, _ => .unknown

namespace Combinator

/-- The value of two conditions that are joined. -/
def apply : Combinator → Truth → Truth → Truth
  | .and => Truth.and
  | .or => Truth.or

/-- The value of what was collected after one more value. What has no value is skipped, and the
combinator with it. -/
def extend (c : Combinator) : Option Truth → Option Truth → Option Truth
  | some v, some w => some (c.apply v w)
  | some v, none => some v
  | none, w => w

@[simp] theorem extend_none_right (c : Combinator) (v : Option Truth) : c.extend v none = v := by
  cases v <;> rfl

end Combinator

end SqlBuilder
