import BlockSketch.Text.Identifier

/-!
The names that a sketch defines and refers to, in five families: constants for
pins, objects for displays, start times of timers, variables of the program, and
counters of counted loops.
-/
namespace BlockSketch.Sketch

/-- A name in a sketch. -/
inductive Name
  | pin (component : Identifier) (role : String)
  | display (component : Identifier)
  | timer (number : UInt8)
  | var (name : Identifier)
  | counter (index : Nat)
deriving DecidableEq

/-- A port role as the end of a name: a plus is spelled out, and a character
    that no name can hold becomes an underscore. -/
def roleText (role : String) : String :=
  if role == "+" then "PLUS"
  else String.ofList (role.toList.map fun c => if c.isAlphanum then c else '_')

/-- The name as it is written. -/
def Name.text : Name → String
  | pin component role => "_" ++ component.text ++ "_" ++ roleText role
  | display component => "_lcd_" ++ component.text
  | timer number => "__time_" ++ toString number.toNat
  | var name => "___" ++ name.text
  | counter index => "___k" ++ toString index

end BlockSketch.Sketch
