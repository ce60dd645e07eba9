import BlockSketch.Text.Hidden

/-!
Texts in double quotes, as they are shown in descriptions of values. A quote
and a backslash are escaped, the common control characters have letters of
their own, and any other character that does not print is shown by its code
point in hexadecimal.
-/
namespace BlockSketch.Text

/-- How one character is shown between quotes. -/
def quotedChar (c : Char) : String :=
  if c == '"' then "\\\""
  else if c == '\\' then "\\\\"
  else if c == '\n' then "\\n"
  else if c == '\r' then "\\r"
  else if c == '\t' then "\\t"
  else if c.toNat == 0 then "\\0"
  else if isHidden c then "\\u\x7b" ++ String.ofList (Nat.toDigits 16 c.toNat) ++ "\x7d"
  else c.toString

/-- The text in double quotes. -/
def quoted (text : String) : String :=
  "\"" ++ String.join (text.toList.map quotedChar) ++ "\""

/-- The texts, each in double quotes, in square brackets. -/
def quotedList (texts : List String) : String :=
  "[" ++ ", ".intercalate (texts.map quoted) ++ "]"

end BlockSketch.Text
