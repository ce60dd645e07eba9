import BlockSketch.Json.Value

/-!
Reading JSON. The reader takes one character at a time and holds what it is in
the middle of: the arrays and objects that are open, what may follow next, and
the lexeme that has begun. It accepts the grammar without extensions, and
builds the value of any depth.
-/
namespace BlockSketch.Json

/-- A part of a text between quotes: a character, or a code unit of UTF-16 that
    an escape gives. -/
inductive Piece
  | char (c : Char)
  | unit (code : Nat)

def isHighSurrogate (code : Nat) : Bool := 0xD800 ≤ code && code < 0xDC00

def isLowSurrogate (code : Nat) : Bool := 0xDC00 ≤ code && code < 0xE000

/-- The characters that the pieces spell, after the first half `high` of a pair
    if there is one. Half a pair alone spells nothing. -/
def spell : (high : Option Nat) → List Piece → Option (List Char)
  | none, [] => some []
  | none, .char c :: rest => (spell none rest).map (c :: ·)
  | none, .unit code :: rest =>
    if isHighSurrogate code then spell (some code) rest
    else if isLowSurrogate code then none
    else (spell none rest).map (Char.ofNat code :: ·)
  | some high, .unit low :: rest =>
    if isLowSurrogate low then
      let code := 0x10000 + (high - 0xD800) * 0x400 + (low - 0xDC00)
      (spell none rest).map (Char.ofNat code :: ·)
    else none
  | some _, _ => none

/-- The number that a lexeme spells: no plus sign, no needless zero in front,
    and digits on both sides of a point. -/
def readNumber? (lexeme : List Char) : Option JsonNumber :=
  let (negative, unsigned) := match lexeme with
    | '-' :: rest => (true, rest)
    | _ => (false, lexeme)
  let (whole, afterWhole) := Decimal.spanDigits unsigned
  if whole.isEmpty || (whole.head? == some '0' && whole.length != 1) then none
  else
    let (fraction, afterFraction) := match afterWhole with
      | '.' :: rest => (some (rest.takeWhile Char.isDigit), rest.dropWhile Char.isDigit)
      | _ => (none, afterWhole)
    if fraction == some [] then none
    else if afterFraction.isEmpty then some ⟨negative, whole, fraction, none⟩
    else (Decimal.readExponent? afterFraction).map fun exponent =>
      ⟨negative, whole, fraction, some exponent⟩

/-- How far an escape has come: not begun, after the backslash, or inside the
    four digits of a code unit. -/
inductive Escape
  | none
  | begun
  | unit (code left : Nat)

/-- The lexeme that the reader is inside of. Texts and numbers are collected
    last character first. -/
inductive Lexeme
  | none
  | word (rest : List Char) (value : Json)
  | number (text : List Char)
  | text (pieces : List Piece) (escape : Escape)

/-- An array or object that is open, with what it holds so far, last first. An
    object also holds the key whose value comes next. -/
inductive Frame
  | items (done : List Json)
  | members (done : List (Option String × Json)) (key : Option String)

/-- What may stand next outside lexemes. -/
inductive Awaiting
  | value
  | firstItem
  | firstKey
  | key
  | colon
  | separator
  | nothing
deriving DecidableEq

/-- The state between two characters. -/
structure Reader where
  frames : List Frame
  awaiting : Awaiting
  lexeme : Lexeme
  result : Option Json

namespace Reader

def start : Reader := ⟨[], .value, .none, none⟩

/-- Whether a value may begin here. -/
def wantsValue (reader : Reader) : Bool :=
  reader.awaiting == .value || reader.awaiting == .firstItem

/-- Whether a key may begin here. -/
def wantsKey (reader : Reader) : Bool :=
  reader.awaiting == .key || reader.awaiting == .firstKey

/-- The state after a whole value. -/
def accept (reader : Reader) (value : Json) : Reader :=
  match reader.frames with
  | [] => { reader with awaiting := .nothing, lexeme := .none, result := some value }
  | .items done :: outer =>
    { reader with frames := .items (value :: done) :: outer, awaiting := .separator, lexeme := .none }
  | .members done key :: outer =>
    { reader with
      frames := .members ((key, value) :: done) none :: outer, awaiting := .separator, lexeme := .none }

/-- The state after a whole text, which is a key where one is awaited. -/
def acceptText (reader : Reader) (text : Option String) : Reader :=
  match reader.frames with
  | .members done _ :: outer =>
    if reader.wantsKey then
      { reader with frames := .members done text :: outer, awaiting := .colon, lexeme := .none }
    else reader.accept (.text text)
  | _ => reader.accept (.text text)

/-- The state after the bracket that ends an array. -/
def closeArray (reader : Reader) : Option Reader :=
  match reader.frames, reader.awaiting with
  | .items done :: outer, .firstItem => some ({ reader with frames := outer }.accept (.array done.reverse))
  | .items done :: outer, .separator => some ({ reader with frames := outer }.accept (.array done.reverse))
  | _, _ => none

/-- The state after the bracket that ends an object. -/
def closeObject (reader : Reader) : Option Reader :=
  match reader.frames, reader.awaiting with
  | .members done _ :: outer, .firstKey =>
    some ({ reader with frames := outer }.accept (.object done.reverse))
  | .members done _ :: outer, .separator =>
    some ({ reader with frames := outer }.accept (.object done.reverse))
  | _, _ => none

/-- The state after a comma. -/
def comma (reader : Reader) : Option Reader :=
  match reader.frames, reader.awaiting with
  | .items _ :: _, .separator => some { reader with awaiting := .value }
  | .members _ _ :: _, .separator => some { reader with awaiting := .key }
  | _, _ => none

/-- The state after a character that stands in no lexeme yet. -/
def outside (reader : Reader) (c : Char) : Option Reader :=
  if c == ' ' || c == '\t' || c == '\r' || c == '\n' then some reader
  else if c == '"' then
    if reader.wantsValue || reader.wantsKey then some { reader with lexeme := .text [] .none } else none
  else if c == ',' then reader.comma
  else if c == ':' then
    if reader.awaiting == .colon then some { reader with awaiting := .value } else none
  else if c == ']' then reader.closeArray
  else if c == '}' then reader.closeObject
  else if !reader.wantsValue then none
  else if c == '[' then
    some { reader with frames := .items [] :: reader.frames, awaiting := .firstItem }
  else if c == '{' then
    some { reader with frames := .members [] none :: reader.frames, awaiting := .firstKey }
  else if c == '-' || c.isDigit then some { reader with lexeme := .number [c] }
  else if c == 't' then some { reader with lexeme := .word ['r', 'u', 'e'] (.bool true) }
  else if c == 'f' then some { reader with lexeme := .word ['a', 'l', 's', 'e'] (.bool false) }
  else if c == 'n' then some { reader with lexeme := .word ['u', 'l', 'l'] .null }
  else none

/-- The piece that a letter after a backslash stands for. -/
def escapeLetter? (c : Char) : Option Char :=
  if c == '"' || c == '\\' || c == '/' then some c
  else if c == 'b' then some '\x08'
  else if c == 'f' then some '\x0c'
  else if c == 'n' then some '\n'
  else if c == 'r' then some '\r'
  else if c == 't' then some '\t'
  else none

/-- The value of a hexadecimal digit. -/
def hexValue? (c : Char) : Option Nat :=
  if c.isDigit then some (c.toNat - '0'.toNat)
  else if 'a' ≤ c && c ≤ 'f' then some (c.toNat - 'a'.toNat + 10)
  else if 'A' ≤ c && c ≤ 'F' then some (c.toNat - 'A'.toNat + 10)
  else none

/-- The state after a character between quotes. -/
def insideText (reader : Reader) (pieces : List Piece) (escape : Escape) (c : Char) : Option Reader :=
  match escape with
  | .none =>
    if c == '"' then some (reader.acceptText ((spell none pieces.reverse).map String.ofList))
    else if c == '\\' then some { reader with lexeme := .text pieces .begun }
    else if c.toNat < 0x20 then none
    else some { reader with lexeme := .text (.char c :: pieces) .none }
  | .begun =>
    if c == 'u' then some { reader with lexeme := .text pieces (.unit 0 3) }
    else (escapeLetter? c).map fun letter => { reader with lexeme := .text (.char letter :: pieces) .none }
  | .unit code left =>
    (hexValue? c).map fun digit =>
      match left with
      | 0 => { reader with lexeme := .text (.unit (16 * code + digit) :: pieces) .none }
      | left + 1 => { reader with lexeme := .text pieces (.unit (16 * code + digit) left) }

def isNumberChar (c : Char) : Bool :=
  c.isDigit || c == '-' || c == '+' || c == '.' || c == 'e' || c == 'E'

/-- The state after one more character. -/
def step (reader : Reader) (c : Char) : Option Reader :=
  match reader.lexeme with
  | .none => reader.outside c
  | .word [] _ => none
  | .word [last] value => if c == last then some (reader.accept value) else none
  | .word (next :: rest) value =>
    if c == next then some { reader with lexeme := .word rest value } else none
  | .number shown =>
    if isNumberChar c then some { reader with lexeme := .number (c :: shown) }
    else (readNumber? shown.reverse).bind fun number => (reader.accept (.number number)).outside c
  | .text pieces escape => reader.insideText pieces escape c

/-- The value that has been read when the text ends here. -/
def finish (reader : Reader) : Option Json :=
  match reader.lexeme with
  | .none => reader.result
  | .number shown => (readNumber? shown.reverse).bind fun number => (reader.accept (.number number)).result
  | _ => none

end Reader

/-- The value that a JSON text denotes. -/
def read? (text : String) : Option Json :=
  (text.toList.foldlM Reader.step Reader.start).bind Reader.finish

end BlockSketch.Json
