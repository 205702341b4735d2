import SqlBuilder.Number.ShortestDecimal

/-!
# The text of a floating-point number

A finite number is written with its shortest decimal, and always so that it cannot be taken for a
whole number: with a point, or with an exponent. From `10 ^ (-4)` up to but not including `10 ^ 16`
the digits stand in their places, and a whole number ends in `.0`. Outside that range one digit
stands before the point and the exponent follows an `e`, without sign for a positive one and without
padding. The sign of zero is kept.
-/

namespace SqlBuilder

/-- A decimal written with its digits in place. -/
def Decimal.positional (digits : List Char) (point : Int) : List Char :=
  if point ≤ 0 then '0' :: '.' :: (List.replicate (-point).toNat '0' ++ digits)
  else if point.toNat < digits.length then
    digits.take point.toNat ++ '.' :: digits.drop point.toNat
  else digits ++ (List.replicate (point.toNat - digits.length) '0' ++ ['.', '0'])

/-- A decimal written as one digit, the others behind a point, and an exponent. -/
def Decimal.scientific (digits : List Char) (point : Int) : List Char :=
  let exponent := (toString (point - 1)).toList
  match digits with
  | [d] => d :: 'e' :: exponent
  | d :: ds => d :: '.' :: (ds ++ 'e' :: exponent)
  | [] => 'e' :: exponent

/-- The text of a positive decimal. The point stands behind `point` digits. -/
def Decimal.text (d : Decimal) : List Char :=
  let digits := Nat.toDigits 10 d.digits
  let point := digits.length + d.exponent
  if -4 < point ∧ point ≤ 16 then Decimal.positional digits point
  else Decimal.scientific digits point

/-- The text of a number. -/
def Binary64.text (x : Binary64) : String :=
  if x.isNaN then "NaN"
  else
    let unsigned :=
      if !x.isFinite then ['i', 'n', 'f']
      else if x.magnitude = 0 then ['0', '.', '0']
      else x.shortest.text
    String.ofList (if x.isNegative then '-' :: unsigned else unsigned)

end SqlBuilder
