/-!
Decimal numbers as they are written: an optional sign, digits with an optional
point among them, and an optional power of ten. `Decimal.read?` gives the
number that a text denotes, exactly.
-/
namespace BlockSketch

/-- The number `digits * 10 ^ exponent`, with a sign. Zero has a sign too. -/
structure Decimal where
  negative : Bool
  digits : Nat
  exponent : Int
deriving DecidableEq, Repr

namespace Decimal

/-- The value of a string of decimal digits, read after `start`. -/
def digitsValue (start : Nat) (digits : List Char) : Nat :=
  digits.foldl (fun value c => 10 * value + (c.toNat - '0'.toNat)) start

/-- The longest prefix of decimal digits, and what follows it. -/
def spanDigits (text : List Char) : List Char × List Char :=
  (text.takeWhile Char.isDigit, text.dropWhile Char.isDigit)

/-- An optional sign, and what follows it. The flag tells a minus. -/
def readSign : List Char → Bool × List Char
  | '+' :: rest => (false, rest)
  | '-' :: rest => (true, rest)
  | text => (false, text)

/-- The power of ten after the digits: nothing, or `e` and a whole number. -/
def readExponent? : List Char → Option Int
  | [] => some 0
  | c :: rest =>
    if c == 'e' || c == 'E' then
      let (negative, digits) := readSign rest
      if digits.isEmpty || !digits.all Char.isDigit then none
      else
        let size : Int := digitsValue 0 digits
        some (if negative then -size else size)
    else none

/-- The digits after a point, if there is one, and what follows them. -/
def readFraction : List Char → List Char × List Char
  | '.' :: rest => spanDigits rest
  | text => ([], text)

/-- The number that the text denotes. At least one digit has to stand before
    or after the point. -/
def read? (text : List Char) : Option Decimal :=
  let (negative, unsigned) := readSign text
  let (whole, afterWhole) := spanDigits unsigned
  let (fraction, afterFraction) := readFraction afterWhole
  if whole.isEmpty && fraction.isEmpty then none
  else
    (readExponent? afterFraction).map fun exponent =>
      { negative
        digits := digitsValue (digitsValue 0 whole) fraction
        exponent := exponent - fraction.length }

end Decimal
end BlockSketch
