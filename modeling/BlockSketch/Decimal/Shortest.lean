import BlockSketch.Decimal.Double

/-!
The text of a double: the fewest digits that read back as the same double,
written out without a power of ten. Of the multiples of `10 ^ k` that read
back, for the largest `k` that has one, the nearest is taken; of two equally
near ones the larger.
-/
namespace BlockSketch.Double

/-- The reals that round to a double, as bounds in quarters of a unit. -/
structure Neighbourhood where
  low : Nat
  high : Nat
  inclusive : Bool

/-- The bounds halfway to the two neighbouring doubles. They belong to the
    neighbourhood if the significand is even. -/
def neighbourhood (units : Nat) : Neighbourhood :=
  let spare := spareBits units
  let step := Nat.pow 2 spare
  let narrow := 0 < spare && units == Nat.pow 2 (52 + spare)
  { low := 4 * units - (if narrow then step else 2 * step)
    high := 4 * units + 2 * step
    inclusive := units / step % 2 == 0 }

/-- Whether `numerator / denominator`, in quarters of a unit, lies in the
    neighbourhood. -/
def Neighbourhood.contains (near : Neighbourhood) (numerator denominator : Nat) : Bool :=
  let low := near.low * denominator
  let high := near.high * denominator
  if near.inclusive then low ≤ numerator && numerator ≤ high
  else low < numerator && numerator < high

/-- The multiple of `10 ^ power` nearest to the magnitude among those that read
    back as it, as the factor. -/
def onGrid? (units : Nat) (power : Int) : Option Nat :=
  let near := neighbourhood units
  -- The factor `c` stands for `c * scale / parts` quarters of a unit.
  let scale := if 0 ≤ power then 4 * one * Nat.pow 10 power.toNat else 4 * one
  let parts := if 0 ≤ power then 1 else Nat.pow 10 (-power).toNat
  let below := 4 * units * parts / scale
  let lower := near.contains (below * scale) parts
  let upper := near.contains ((below + 1) * scale) parts
  let upperNearer := scale ≤ 2 * (4 * units * parts - below * scale)
  if upper && (!lower || upperNearer) then some (below + 1)
  else if lower then some below
  else none

/-- The powers of ten that can end a shortest decimal, descending. -/
def endPowers : List Int :=
  (List.range 633).map fun i : Nat => (308 : Int) - (i : Int)

/-- The shortest digits and the power of ten of the last one. -/
def shortest (units : Nat) : Nat × Int :=
  if units == 0 then (0, 0)
  else (endPowers.findSome? fun power => (onGrid? units power).map (·, power)).getD (0, 0)

/-- `digits * 10 ^ power` written out with a point where one is needed. -/
def positional (digits : Nat) (power : Int) : String :=
  let text := Nat.toDigits 10 digits
  if 0 ≤ power then String.ofList (text ++ List.replicate power.toNat '0')
  else
    let places := (-power).toNat
    let padded := List.replicate (places + 1 - text.length) '0' ++ text
    let cut := padded.length - places
    String.ofList (padded.take cut ++ '.' :: padded.drop cut)

/-- The text of the double. -/
def text (number : Double) : String :=
  let (digits, power) := shortest number.units
  (if number.negative then "-" else "") ++ positional digits power

end BlockSketch.Double
