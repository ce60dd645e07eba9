import BlockSketch.Decimal.Numeral
import BlockSketch.Program.Words
import BlockSketch.Sketch.Name

/-!
Sketches as trees: what a program becomes before it is written down as text. A
sketch refers to pins, displays and timers by name only.
-/
namespace BlockSketch.Sketch

/-- The terms of a sketch. -/
inductive Term
  | number (literal : Numeral)
  | boolean (value : Bool)
  | text (value : String)
  | name (referent : Name)
  | binary (op : BinaryOp) (left right : Term)
  | unary (op : UnaryOp) (operand : Term)
  | pressed (pin : Name)
  | distance (trigger echo : Name)
  | brightness (pin : Name)
  | temperature (pin : Name)
  | elapsed (timer : Name)

/-- Whether a pin is read or driven. -/
inductive PinMode
  | input | output
deriving DecidableEq, Repr

/-- Commands that take one line. -/
inductive Command
  | openSerial
  | startDisplay (display : Name)
  | pinMode (pin : Name) (mode : PinMode)
  | setLight (color : LedColor) (blink : Bool)
  | clearLight
  | resetLight
  | tone (pin : Name) (frequency duration : Term)
  | drive (forward backward : Name) (power : Term)
  | halt (forward backward : Name)
  | print (display : Name) (text : Term)
  | send (value : Term)
  | assign (target : Name) (value : Term)
  | leave (way : Flow)
  | pause (time : Term)

/-- What keeps a loop going. -/
inductive Head
  | forever
  | counted (counter : Name) (count : Term)
  | during (condition : Term)
  | till (condition : Term)

mutual

/-- Instructions, with the blocks they hold. -/
inductive Instruction
  | command (command : Command)
  | choice (choice : Choice)
  | loop (head : Head) (body : List Instruction)

/-- The arms of a choice. -/
inductive Choice
  | only (condition : Term) (body : List Instruction)
  | orElse (condition : Term) (body otherwise : List Instruction)
  | orIf (condition : Term) (body : List Instruction) (rest : Choice)

end

/-- Definitions before everything else: a constant for a pin, or an object for a
    display with the constants of its pins. -/
inductive Definition
  | pin (name : Name) (wired : Pin)
  | display (name : Name) (pins : List Name)

/-- Variables of the sketch: those of the program, and the start times of its
    timers. -/
inductive Global
  | var (name : Name) (type : ValueType)
  | timer (name : Name)

end Sketch

/-- A sketch. Commands of the setup run once, instructions of the loop again and
    again. -/
structure Sketch where
  usesDisplay : Bool
  definitions : List Sketch.Definition
  globals : List Sketch.Global
  setup : List Sketch.Command
  loop : List Sketch.Instruction

end BlockSketch
