import BlockSketch.Decimal.Double

/-!
Numbers and dates in TOML. Only their form is checked.
-/
namespace BlockSketch.Toml

/-- Digits of a base, in which an underscore may stand between two digits. -/
def isDigitRun (isDigit : Char → Bool) : List Char → Bool
  | [] => false
  | [c] => isDigit c
  | c :: '_' :: rest => isDigit c && isDigitRun isDigit rest
  | c :: next :: rest => isDigit c && isDigitRun isDigit (next :: rest)

def isHexDigit (c : Char) : Bool :=
  c.isDigit || ('a' ≤ c && c ≤ 'f') || ('A' ≤ c && c ≤ 'F')

def withoutSign : List Char → List Char
  | '+' :: rest => rest
  | '-' :: rest => rest
  | text => text

/-- Decimal digits without a needless zero in front. -/
def isWhole (text : List Char) : Bool :=
  isDigitRun Char.isDigit text && (text.head? != some '0' || text.length == 1)

/-- The number that digits in a base denote. Underscores add nothing to it. -/
def wholeValue (base : Nat) (text : List Char) : Nat :=
  let digit (c : Char) : Nat :=
    if c.isDigit then c.toNat - '0'.toNat
    else if 'a' ≤ c then c.toNat - 'a'.toNat + 10
    else c.toNat - 'A'.toNat + 10
  (text.filter (· != '_')).foldl (fun value c => base * value + digit c) 0

/-- Whether the digits in a base denote a number of at most 128 bits. -/
def fitsWide (base : Nat) (text : List Char) : Bool :=
  wholeValue base text < Nat.pow 2 128

/-- A whole number, decimal or with the mark of another base. A sign takes one
    of the 128 bits of a number below zero. -/
def isInteger : List Char → Bool
  | '0' :: 'x' :: rest => isDigitRun isHexDigit rest && fitsWide 16 rest
  | '0' :: 'o' :: rest => isDigitRun (fun c => '0' ≤ c && c ≤ '7') rest && fitsWide 8 rest
  | '0' :: 'b' :: rest => isDigitRun (fun c => c == '0' || c == '1') rest && fitsWide 2 rest
  | '-' :: rest => isWhole rest && wholeValue 10 rest ≤ Nat.pow 2 127
  | text => isWhole (withoutSign text) && fitsWide 10 (withoutSign text)

def isExponentMark (c : Char) : Bool :=
  c == 'e' || c == 'E'

/-- The power of ten of a float: nothing, or a mark and digits. -/
def isExponent : List Char → Bool
  | [] => true
  | c :: rest => isExponentMark c && isDigitRun Char.isDigit (withoutSign rest)

/-- A number with a point or a power of ten, in the range of doubles. -/
def isFloat (text : List Char) : Bool :=
  let unsigned := withoutSign text
  if unsigned == ['i', 'n', 'f'] || unsigned == ['n', 'a', 'n'] then true
  else
    let isDigitOrBar (c : Char) : Bool := c.isDigit || c == '_'
    let whole := unsigned.takeWhile isDigitOrBar
    let formed := match unsigned.dropWhile isDigitOrBar with
      | '.' :: rest =>
        isDigitRun Char.isDigit (rest.takeWhile isDigitOrBar) && isExponent (rest.dropWhile isDigitOrBar)
      | rest => !rest.isEmpty && isExponent rest
    isWhole whole && formed &&
      ((Decimal.read? (unsigned.filter (· != '_'))).bind Double.ofDecimal?).isSome

/-- The number that so many digits at the front of a text denote, and what
    follows them. -/
def digits? (count : Nat) (text : List Char) : Option (Nat × List Char) :=
  let front := text.take count
  if front.length == count && front.all Char.isDigit then
    some (Decimal.digitsValue 0 front, text.drop count)
  else none

/-- The number of days in a month. -/
def monthDays (year month : Nat) : Nat :=
  if month == 2 then
    if (year % 4 == 0 && year % 100 != 0) || year % 400 == 0 then 29 else 28
  else if month == 4 || month == 6 || month == 9 || month == 11 then 30
  else 31

/-- What follows a date at the front of a text. -/
def afterDate? (text : List Char) : Option (List Char) := do
  let (year, rest) ← digits? 4 text
  let '-' :: rest := rest | none
  let (month, rest) ← digits? 2 rest
  let '-' :: rest := rest | none
  let (day, rest) ← digits? 2 rest
  if 1 ≤ month && month ≤ 12 && 1 ≤ day && day ≤ monthDays year month then some rest else none

/-- What follows a time at the front of a text. Seconds may be left out. -/
def afterTime? (text : List Char) : Option (List Char) := do
  let (hour, rest) ← digits? 2 text
  let ':' :: rest := rest | none
  let (minute, rest) ← digits? 2 rest
  if 23 < hour || 59 < minute then none
  let ':' :: rest := rest | some rest
  let (second, rest) ← digits? 2 rest
  if 60 < second then none
  let '.' :: rest := rest | some rest
  let fraction := rest.takeWhile Char.isDigit
  if fraction.isEmpty then none else some (rest.drop fraction.length)

/-- The offset of a time: nothing, a `Z`, or hours and minutes. -/
def isOffset : List Char → Bool
  | [] => true
  | [c] => c == 'Z' || c == 'z'
  | sign :: rest =>
    (sign == '+' || sign == '-') &&
      match digits? 2 rest with
      | some (hours, ':' :: rest) =>
        match digits? 2 rest with
        | some (minutes, []) => hours ≤ 23 && minutes ≤ 59
        | _ => false
      | _ => false

/-- A date, a time, or both. -/
def isMoment (text : List Char) : Bool :=
  match afterDate? text with
  | some [] => true
  | some (divider :: rest) =>
    (divider == 'T' || divider == 't' || divider == ' ') &&
      match afterTime? rest with
      | some offset => isOffset offset
      | none => false
  | none => afterTime? text == some []

/-- A number or a date. -/
def isScalar (text : List Char) : Bool :=
  isInteger text || isFloat text || isMoment text

end BlockSketch.Toml
