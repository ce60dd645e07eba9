import BlockSketch.Json.Value

/-!
Writing JSON over several lines. Every item and every member stands on a line
of its own, indented by two blanks a level, and characters outside ASCII are
written as they are.
-/
namespace BlockSketch.Json

/-- Two hexadecimal digits for a code below 256. -/
def hexPair (code : Nat) : String :=
  String.ofList [Nat.digitChar (code / 16), Nat.digitChar (code % 16)]

/-- How a character is written between quotes. -/
def escapeChar (c : Char) : String :=
  if c == '"' then "\\\""
  else if c == '\\' then "\\\\"
  else if c == '\x08' then "\\b"
  else if c == '\x0c' then "\\f"
  else if c == '\n' then "\\n"
  else if c == '\r' then "\\r"
  else if c == '\t' then "\\t"
  else if c.toNat < 0x20 then "\\u00" ++ hexPair c.toNat
  else c.toString

/-- A string in quotes. -/
def quote (value : String) : String :=
  "\"" ++ String.join (value.toList.map escapeChar) ++ "\""

/-- A number as it was written. -/
def numberText (number : JsonNumber) : String :=
  (if number.negative then "-" else "") ++ String.ofList number.whole ++
    (number.fraction.elim "" fun digits => "." ++ String.ofList digits) ++
    (number.exponent.elim "" fun exponent => "e" ++ toString exponent)

/-- A natural number as a value. -/
def ofNat (value : Nat) : Json :=
  .number ⟨false, Nat.toDigits 10 value, none, none⟩

/-- A string as a value. -/
def ofString (value : String) : Json :=
  .text (some value)

/-- A line break and the indentation of a level. -/
def newline (level : Nat) : String :=
  "\n" ++ String.ofList (List.replicate (2 * level) ' ')

mutual

/-- The value over several lines, for use at a level of indentation. -/
def pretty (level : Nat) : Json → String
  | null => "null"
  | bool value => if value then "true" else "false"
  | number value => numberText value
  | text value => quote (value.getD "")
  | array [] => "[]"
  | array (item :: rest) =>
    "[" ++ newline (level + 1) ++ item.pretty (level + 1) ++ prettyItems (level + 1) rest ++
      newline level ++ "]"
  | object [] => "\x7b\x7d"
  | object ((key, value) :: rest) =>
    "\x7b" ++ newline (level + 1) ++ quote (key.getD "") ++ ": " ++ value.pretty (level + 1) ++
      prettyMembers (level + 1) rest ++ newline level ++ "\x7d"

def prettyItems (level : Nat) : List Json → String
  | [] => ""
  | item :: rest => "," ++ newline level ++ item.pretty level ++ prettyItems level rest

def prettyMembers (level : Nat) : List (Option String × Json) → String
  | [] => ""
  | (key, value) :: rest =>
    "," ++ newline level ++ quote (key.getD "") ++ ": " ++ value.pretty level ++
      prettyMembers level rest

end

end BlockSketch.Json
