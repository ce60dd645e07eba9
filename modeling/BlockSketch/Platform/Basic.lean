import BlockSketch.Vocabulary

/-!
Platforms: the pins of a board, the port roles that claim a pin for themselves,
and the workflows that are defined for it.
-/
namespace BlockSketch

/-- The workers that a workflow can be made of. -/
inductive Worker
  | validator | configurationValidator | typeCheck | codeGenerator
deriving DecidableEq, Repr

instance : Vocabulary Worker where
  title := "Worker"
  values := [.validator, .configurationValidator, .typeCheck, .codeGenerator]
  word
    | .validator => "validator"
    | .configurationValidator => "arduino_configuration_validator"
    | .typeCheck => "type_check"
    | .codeGenerator => "code_generator"

def Worker.name (worker : Worker) : String :=
  Vocabulary.word worker

/-- A platform. A pin may be listed as often as it can be claimed. -/
structure Platform where
  name : String
  freePins : List String
  overlappingRoles : List (String × Bool)
  workflows : List (String × List Worker)
deriving DecidableEq, Repr

/-- The platform has no workflow with the name that was asked for. -/
structure UnknownWorkflow where
  platform : String
  name : String
deriving DecidableEq, Repr

namespace UnknownWorkflow

/-- The error in one line. -/
def message (error : UnknownWorkflow) : String :=
  "platform `" ++ error.platform ++ "` has no workflow `" ++ error.name ++ "`"

/-- The error in one line, where a program was to be compiled. -/
def compileMessage (error : UnknownWorkflow) : String :=
  "Cannot compile for platform `" ++ error.platform ++ "`: " ++ error.message

end UnknownWorkflow

namespace Platform

/-- Whether a pin with this role is claimed by one component alone. A role that
    the platform does not list never claims a pin. -/
def isOverlapping (platform : Platform) (role : String) : Bool :=
  (platform.overlappingRoles.lookup role).getD false

/-- The workers of a workflow in order. -/
def workflow (platform : Platform) (name : String) : Except UnknownWorkflow (List Worker) :=
  match platform.workflows.lookup name with
  | some workers => .ok workers
  | none => .error ⟨platform.name, name⟩

/-- The roles that claim a pin on Arduino boards. -/
def arduinoRoles : List String :=
  ["INPUT", "OUTPUT", "+", "S", "PULSE", "TRIG", "ECHO", "RED", "GREEN", "BLUE", "RST", "IN", "SDA",
   "RS", "E", "D4", "D5", "D6", "D7", "PIN1", "IN1", "IN2", "IN3", "IN4", "OUT"]

/-- The Arduino Uno: digital pins from 0 to 13 and analog pins from A0 to A5. -/
def arduinoUno : Platform where
  name := "arduino-uno"
  freePins := (List.range 14).map toString ++ (List.range 6).map fun pin => "A" ++ toString pin
  overlappingRoles := arduinoRoles.map (·, true)
  workflows :=
    [("compile", [.configurationValidator, .typeCheck, .codeGenerator]),
     ("validate", [.configurationValidator, .typeCheck])]

end Platform
end BlockSketch
