import BlockSketch.Sketch.Code

/-!
The text of a sketch. Code is rendered line by line; the lines of a block are
indented by four blanks, at every depth.
-/
namespace BlockSketch.Sketch

/-- How a character is written inside a literal: quotes and backslashes are
    escaped, and a line never ends inside a literal. -/
def literalChar (c : Char) : List Char :=
  if c = '"' then ['\\', '"']
  else if c = '\\' then ['\\', '\\']
  else if c = '\n' then ['\\', 'n']
  else [c]

/-- A text as a literal. -/
def literal (value : String) : String :=
  "String(\"" ++ String.ofList (value.toList.flatMap literalChar) ++ "\")"

def boolText (value : Bool) : String :=
  if value then "true" else "false"

namespace Term

/-- The text of a term. Operations are in brackets, but for the remainder,
    which the operator does not give for numbers that are not whole. -/
def render : Term → String
  | number literal => literal.text
  | boolean value => boolText value
  | text value => literal value
  | name referent => referent.text
  | binary .mod left right => "fmod(" ++ left.render ++ ", " ++ right.render ++ ")"
  | binary op left right => "(" ++ left.render ++ " " ++ op.symbol ++ " " ++ right.render ++ ")"
  | unary op operand => "(" ++ op.symbol ++ operand.render ++ ")"
  | pressed pin => "digitalRead(" ++ pin.text ++ ")"
  | distance trigger echo => "_getUltrasonicDistance(" ++ trigger.text ++ ", " ++ echo.text ++ ")"
  | brightness pin => "(analogRead(" ++ pin.text ++ ") * 100 / 1023)"
  | temperature pin => "_getTemperature(" ++ pin.text ++ ")"
  | elapsed timer => "((int) (millis() - " ++ timer.text ++ "))"

end Term

def PinMode.text : PinMode → String
  | .input => "INPUT"
  | .output => "OUTPUT"

/-- Whether the light blinks, as an argument. -/
def onOff (blink : Bool) : String :=
  if blink then "ON" else "OFF"

/-- The line of a command. -/
def Command.render : Command → String
  | openSerial => "Serial.begin(9600);"
  | startDisplay display => display.text ++ ".begin(16, 2);"
  | pinMode pin mode => "pinMode(" ++ pin.text ++ ", " ++ mode.text ++ ");"
  | setLight color blink =>
    "_setBrickLight(" ++ Vocabulary.word color ++ ", " ++ onOff blink ++ ");"
  | clearLight => "_setBrickLight(OFF, OFF);"
  | resetLight => "_resetBrickLight();"
  | tone pin frequency duration =>
    "tone(" ++ pin.text ++ ", " ++ frequency.render ++ ", " ++ duration.render ++ ");"
  | drive forward backward power =>
    "_motorOn(" ++ forward.text ++ ", " ++ backward.text ++ ", " ++ power.render ++ ");"
  | halt forward backward => "_motorStop(" ++ forward.text ++ ", " ++ backward.text ++ ");"
  | print display text => display.text ++ ".print(" ++ text.render ++ ");"
  | send value => "Serial.println(" ++ value.render ++ ");"
  | assign target value => target.text ++ " = " ++ value.render ++ ";"
  | leave .break => "break;"
  | leave .continue => "continue;"
  | pause time => "delay(" ++ time.render ++ ");"

/-- The words before the block of a loop. -/
def Head.render : Head → String
  | forever => "while (true)"
  | counted counter count =>
    "for (int " ++ counter.text ++ " = 0; " ++ counter.text ++ " < " ++ count.render ++ "; " ++
      counter.text ++ " += 1)"
  | during condition => "while (" ++ condition.render ++ ")"
  | till condition => "while (!(" ++ condition.render ++ "))"

/-- A line one level deeper. -/
def indent (line : String) : String :=
  "    " ++ line

/-- The lines of a block after its head. -/
def braced (head : String) (body : List String) : List String :=
  (head ++ " \x7b") :: (body.map indent ++ ["\x7d"])

mutual

/-- The lines of an instruction. -/
def Instruction.lines : Instruction → List String
  | .command command => [command.render]
  | .choice choice => choice.lines ""
  | .loop head body => braced head.render (Instruction.blockLines body)

/-- The lines of a block without its head. -/
def Instruction.blockLines : List Instruction → List String
  | [] => []
  | instruction :: rest => instruction.lines ++ Instruction.blockLines rest

/-- The lines of a choice, the first of them after what stands before it. -/
def Choice.lines (before : String) : Choice → List String
  | .only condition body =>
    braced (before ++ "if (" ++ condition.render ++ ")") (Instruction.blockLines body)
  | .orElse condition body otherwise =>
    (before ++ "if (" ++ condition.render ++ ") \x7b") ::
      ((Instruction.blockLines body).map indent ++ braced "\x7d else" (Instruction.blockLines otherwise))
  | .orIf condition body rest =>
    (before ++ "if (" ++ condition.render ++ ") \x7b") ::
      ((Instruction.blockLines body).map indent ++ rest.lines "\x7d else ")

end

def Definition.render : Definition → String
  | pin name wired => "const int " ++ name.text ++ " = " ++ wired.text ++ ";"
  | display name pins =>
    "LiquidCrystal " ++ name.text ++ "(" ++ ", ".intercalate (pins.map Name.text) ++ ");"

/-- The type of a variable in a sketch. -/
def typeText : ValueType → String
  | .number => "double"
  | .boolean => "bool"
  | .string => "String"

def Global.render : Global → String
  | var name type => typeText type ++ " " ++ name.text ++ ";"
  | timer name => "unsigned long " ++ name.text ++ " = millis();"

/-- The first line of every sketch. -/
def banner : String :=
  "// This file is automatically generated by the NEPO compiler."

def includes (usesDisplay : Bool) : List String :=
  ["#include <Arduino.h>", "#include <NEPODEFS.h>"] ++
    (if usesDisplay then ["#include <LiquidCrystal.h>"] else [])

end Sketch

namespace Sketch

/-- The parts of a sketch. Definitions and globals stand only if there are
    some. -/
def sections (sketch : Sketch) : List (List String) :=
  [[banner], includes sketch.usesDisplay] ++
    [sketch.definitions.map Definition.render, sketch.globals.map Global.render].filter
      (fun lines => !lines.isEmpty) ++
    [braced "void setup()" (sketch.setup.map Command.render),
     braced "void loop()" (Instruction.blockLines sketch.loop)]

/-- The text of the sketch, its parts divided by empty lines. -/
def render (sketch : Sketch) : String :=
  "\n\n".intercalate (sketch.sections.map fun lines => "\n".intercalate lines) ++ "\n"

end Sketch
end BlockSketch
