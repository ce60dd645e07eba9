import BlockSketch.Decimal.Basic

/-!
Finite numbers of double precision. Each is a whole multiple of `2 ^ -1074`
with at most 53 significant bits, so rounding to the nearest one is a division
of natural numbers; a tie goes to the even neighbour.
-/
namespace BlockSketch

/-- A finite double: its sign, and its magnitude counted in units of
    `2 ^ -1074`. -/
structure Double where
  negative : Bool
  units : Nat
deriving DecidableEq, Repr

namespace Double

/-- `1` in units of `2 ^ -1074`. -/
def one : Nat := Nat.pow 2 1074

/-- Magnitudes from here on are too large for a double. -/
def limit : Nat := Nat.pow 2 1024 * one

/-- The natural number nearest to `numerator / denominator`; a tie goes to the
    even neighbour. -/
def roundDiv (numerator denominator : Nat) : Nat :=
  let quotient := numerator / denominator
  let twice := 2 * (numerator % denominator)
  if twice < denominator then quotient
  else if denominator < twice then quotient + 1
  else quotient + quotient % 2

/-- The number of bits below the 53 significant ones. -/
def spareBits (units : Nat) : Nat :=
  units.log2 - 52

/-- The magnitude `numerator / denominator`, given in units, rounded to 53
    significant bits. -/
def nearestUnits (numerator denominator : Nat) : Nat :=
  let step := Nat.pow 2 (spareBits (numerator / denominator))
  roundDiv numerator (denominator * step) * step

/-- The magnitude of `digits * 10 ^ exponent` in units, rounded; `none` if it
    is too large. Powers of ten far out of range are not computed. -/
def magnitude? (digits : Nat) (exponent : Int) : Option Nat :=
  if digits == 0 || exponent < -(401 + digits.log2 : Int) then some 0
  else if 400 < exponent then none
  else
    let units :=
      if 0 ≤ exponent then nearestUnits (digits * Nat.pow 10 exponent.toNat * one) 1
      else nearestUnits (digits * one) (Nat.pow 10 (-exponent).toNat)
    if units < limit then some units else none

/-- The double nearest to the decimal number, if one is near. -/
def ofDecimal? (number : Decimal) : Option Double :=
  (magnitude? number.digits number.exponent).map fun units =>
    { negative := number.negative, units }

/-- The number with the other sign. -/
def neg (number : Double) : Double :=
  { number with negative := !number.negative }

/-- The 64 bits of the interchange format: sign, exponent, fraction. -/
def bits (number : Double) : Nat :=
  let sign := if number.negative then Nat.pow 2 63 else 0
  if number.units < Nat.pow 2 52 then sign + number.units
  else
    let spare := spareBits number.units
    sign + spare * Nat.pow 2 52 + number.units / Nat.pow 2 spare

end Double
end BlockSketch
