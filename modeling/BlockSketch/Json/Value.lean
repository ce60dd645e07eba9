import BlockSketch.Decimal.Double

/-!
JSON documents as they are written: members of an object keep their order and
may repeat a key, numbers keep their digits, and a text that escapes half of a
surrogate pair is kept apart from the texts that are strings.
-/
namespace BlockSketch

/-- A JSON number as written. The fraction and the exponent are absent when
    the point or the `e` is. -/
structure JsonNumber where
  negative : Bool
  whole : List Char
  fraction : Option (List Char)
  exponent : Option Int
deriving DecidableEq, Repr

/-- A JSON value. A text or a key is `none` if it is no string, because an
    escape in it stands for half of a surrogate pair. -/
inductive Json
  | null
  | bool (value : Bool)
  | number (value : JsonNumber)
  | text (value : Option String)
  | array (items : List Json)
  | object (members : List (Option String × Json))

namespace JsonNumber

/-- The natural number that is written without sign, point and exponent. -/
def natural? (number : JsonNumber) : Option Nat :=
  if number.negative || number.fraction.isSome || number.exponent.isSome then none
  else some (Decimal.digitsValue 0 number.whole)

/-- Leading digits that fit a word of 64 bits, with the power of ten of the
    last one of them. -/
structure Leading where
  digits : Nat
  power : Int

/-- The word that the leading digits have to fit. -/
def wordLimit : Nat := Nat.pow 2 64

/-- The leading digits of a whole number. Each digit that no longer fits
    raises the power of ten. -/
def leadingWhole (whole : List Char) : Leading :=
  (whole.foldl (fun (taken, full) c =>
    let next := Decimal.digitsValue taken.digits [c]
    if full || wordLimit ≤ next then ({ taken with power := taken.power + 1 }, true)
    else ({ taken with digits := next }, false)) ((⟨0, 0⟩ : Leading), false)).1

/-- The leading digits continued over a fraction. Digits that no longer fit
    are dropped. -/
def leadingFraction (start : Leading) (fraction : List Char) : Leading :=
  (fraction.foldl (fun (taken, full) c =>
    let next := Decimal.digitsValue taken.digits [c]
    if full || wordLimit ≤ next then (taken, true)
    else (⟨next, taken.power - 1⟩, false)) (start, false)).1

/-- Whether the number is in the range of doubles: the product of its leading
    digits and their power of ten, each rounded to a double, is finite. -/
def inRange (number : JsonNumber) : Bool :=
  let leading := leadingFraction (leadingWhole number.whole) (number.fraction.getD [])
  let power := leading.power + number.exponent.getD 0
  if leading.digits == 0 || power < 0 then true
  else if 308 < power then false
  else
    let digits := Double.nearestUnits (leading.digits * Double.one) 1
    let scale := Double.nearestUnits (Nat.pow 10 power.toNat * Double.one) 1
    Double.nearestUnits (digits * scale) Double.one < Double.limit

end JsonNumber

namespace Json

mutual

/-- Whether the value keeps the limits of values that are read: at most
    `levels` arrays and objects inside one another, all texts strings, and all
    numbers in the range of doubles. -/
def fits (levels : Nat) : Json → Bool
  | null => true
  | bool _ => true
  | number value => value.inRange
  | text value => value.isSome
  | array items => 0 < levels && fitsItems (levels - 1) items
  | object members => 0 < levels && fitsMembers (levels - 1) members

def fitsItems (levels : Nat) : List Json → Bool
  | [] => true
  | item :: rest => item.fits levels && fitsItems levels rest

def fitsMembers (levels : Nat) : List (Option String × Json) → Bool
  | [] => true
  | (key, value) :: rest => key.isSome && value.fits levels && fitsMembers levels rest

end

/-- The string that the value is. -/
def string? : Json → Option String
  | text value => value
  | _ => none

/-- The truth value that the value is. -/
def bool? : Json → Option Bool
  | bool value => some value
  | _ => none

/-- The natural number below `limit` that the value is. -/
def natural? (limit : Nat) : Json → Option Nat
  | number value => value.natural?.filter (· < limit)
  | _ => none

/-- The items of an array. -/
def items? : Json → Option (List Json)
  | array items => some items
  | _ => none

end Json
end BlockSketch
