/-!
# Floating-point numbers by their bits

A number of double precision is kept as its 64 bits and never as a machine float, so that equality
is equality of bits: the two zeros differ and a NaN equals itself. Every finite number is a whole
multiple of the least positive one, `2 ^ (-1074)`, and `magnitude` is that multiple. Exact questions
about a finite number are therefore questions about natural numbers.
-/

namespace SqlBuilder

/-- A number of double precision. -/
structure Binary64 where
  /-- Sign, exponent and fraction, in 1, 11 and 52 bits. -/
  bits : UInt64
deriving DecidableEq, Repr

namespace Binary64

/-- The sign bit is set. -/
def isNegative (x : Binary64) : Bool :=
  1 <<< 63 ≤ x.bits.toNat

/-- The 11 bits of the exponent. -/
def exponentField (x : Binary64) : Nat :=
  (x.bits.toNat >>> 52) % (1 <<< 11)

/-- The 52 bits of the fraction. -/
def fractionField (x : Binary64) : Nat :=
  x.bits.toNat % (1 <<< 52)

/-- Neither an infinity nor a NaN. -/
def isFinite (x : Binary64) : Bool :=
  x.exponentField != 2047

/-- Not a number. -/
def isNaN (x : Binary64) : Bool :=
  x.exponentField == 2047 && x.fractionField != 0

/-- The significand of a finite number as a whole number. Below the normal range there is no hidden
leading bit. -/
def significand (x : Binary64) : Nat :=
  if x.exponentField = 0 then x.fractionField else (1 <<< 52) + x.fractionField

/-- The distance to the next larger magnitude, in units of the least positive number. -/
def spacing (x : Binary64) : Nat :=
  1 <<< (x.exponentField - 1)

/-- The absolute value of a finite number in units of the least positive number. -/
def magnitude (x : Binary64) : Nat :=
  x.significand * x.spacing

/-- The neighbour towards zero is only half a spacing away, because a power of two
separates them. -/
def isNarrowBelow (x : Binary64) : Bool :=
  x.fractionField == 0 && 1 < x.exponentField

end Binary64

/-- A number of single precision: sign, exponent and fraction in 1, 8 and 23 bits. -/
structure Binary32 where
  /-- The 32 bits. -/
  bits : UInt32
deriving DecidableEq, Repr

/-- The same number in double precision; nothing is rounded. A number below the normal range of
single precision lies inside that of double precision, so its leading bit becomes the hidden one. -/
def Binary32.widen (x : Binary32) : Binary64 :=
  let sign := x.bits.toNat >>> 31
  let exponent := (x.bits.toNat >>> 23) % (1 <<< 8)
  let fraction := x.bits.toNat % (1 <<< 23)
  let rest :=
    if exponent = 255 then (2047 <<< 52) + (fraction <<< 29)
    else if exponent ≠ 0 then ((exponent + 896) <<< 52) + (fraction <<< 29)
    else if fraction = 0 then 0
    else
      let leading := fraction.log2
      ((leading + 874) <<< 52) + ((fraction - (1 <<< leading)) <<< (52 - leading))
  ⟨UInt64.ofNat ((sign <<< 63) + rest)⟩

end SqlBuilder
