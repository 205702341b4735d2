import SqlBuilder.Number.Binary64

/-!
# The shortest decimal of a number

The decimals that read back to a given finite number fill an interval: from halfway to the neighbour
below to halfway to the neighbour above, with the ends included exactly when the significand is
even. `Binary64.shortest` finds the decimal of that interval with the fewest digits, and among those
the one nearest to the number; of two equally near it takes the larger.

The search is the specification turned into a loop. On the grid of all decimals with a given number
of digits only the two neighbours of the number can lie in the interval if anything does, so for one
digit, two digits and so on these two are tried. All comparisons are between natural numbers: a
number is `magnitude / 2 ^ 1074`, and a quarter of that unit expresses both ends of the interval.
-/

namespace SqlBuilder

/-- The decimal `digits * 10 ^ exponent`. -/
structure Decimal where
  /-- The digits, as one number. -/
  digits : Nat
  /-- The power of ten that they are multiplied by. -/
  exponent : Int
deriving DecidableEq, Repr

/-- The decimal with its trailing zeros moved into the exponent; `fuel` bounds how many
are moved. -/
def Decimal.stripped (d : Decimal) : Nat → Decimal
  | 0 => d
  | fuel + 1 =>
    if d.digits % 10 = 0 then (Decimal.mk (d.digits / 10) (d.exponent + 1)).stripped fuel else d

namespace Binary64

/-- Quarters of the least positive number that make up one. -/
def quartersInOne : Nat := 1 <<< 1076

/-- The absolute value in quarters of the least positive number. -/
def quarters (x : Binary64) : Nat :=
  4 * x.magnitude

/-- The lower end of the interval that reads back to the number, in quarters. -/
def lowerEnd (x : Binary64) : Nat :=
  x.quarters - (if x.isNarrowBelow then x.spacing else 2 * x.spacing)

/-- The upper end of the interval that reads back to the number, in quarters. -/
def upperEnd (x : Binary64) : Nat :=
  x.quarters + 2 * x.spacing

/-- The decimal lies in the interval that reads back to the absolute value of the number. -/
def readsBack (x : Binary64) (d : Decimal) : Bool :=
  let scaled := d.digits * Nat.pow 10 d.exponent.toNat * quartersInOne
  let shift := Nat.pow 10 (-d.exponent).toNat
  if x.significand % 2 = 0 then
    x.lowerEnd * shift ≤ scaled && scaled ≤ x.upperEnd * shift
  else
    x.lowerEnd * shift < scaled && scaled < x.upperEnd * shift

/-- The largest multiple of `10 ^ exponent` that is at most the absolute value of the number. -/
def floorOnGrid (x : Binary64) (exponent : Int) : Nat :=
  x.quarters * Nat.pow 10 (-exponent).toNat / (quartersInOne * Nat.pow 10 exponent.toNat)

/-- The number is nearer to the grid point above `digits * 10 ^ exponent` than to that point, or
exactly between the two. -/
def isNearerAbove (x : Binary64) (digits : Nat) (exponent : Int) : Bool :=
  (2 * digits + 1) * Nat.pow 10 exponent.toNat * quartersInOne
    ≤ 2 * x.quarters * Nat.pow 10 (-exponent).toNat

/-- The neighbour of the number on the grid of multiples of `10 ^ exponent` that reads back to it,
if one does. -/
def onGrid? (x : Binary64) (exponent : Int) : Option Decimal :=
  let below := x.floorOnGrid exponent
  let low : Decimal := ⟨below, exponent⟩
  let high : Decimal := ⟨below + 1, exponent⟩
  match x.readsBack low, x.readsBack high with
  | true, true => some (if x.isNearerAbove below exponent then high else low)
  | true, false => some low
  | false, true => some high
  | false, false => none

/-- The least power of ten above a positive number, as an exponent. The least positive number
exceeds `10 ^ (-400)`, so on that scale the whole part has the same leading digit. -/
def scale (x : Binary64) : Int :=
  (Nat.toDigits 10 (x.quarters * Nat.pow 10 400 / quartersInOne)).length - 400

/-- The number itself as a decimal. -/
def exactDecimal (x : Binary64) : Decimal :=
  ⟨x.quarters * Nat.pow 5 1076, -1076⟩

/-- The shortest decimal that reads back to the absolute value of a finite number other than zero.
Seventeen digits always suffice; the exact decimal stands behind them so that nothing depends
on it. -/
def shortest (x : Binary64) : Decimal :=
  match (List.range 17).findSome? fun (n : Nat) ↦ x.onGrid? (x.scale - (n + 1)) with
  | some d => d.stripped 17
  | none => x.exactDecimal

end Binary64

end SqlBuilder
