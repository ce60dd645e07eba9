import BlockSketch.Vocabulary

/-!
Notices about blocks and components. A notice carries no free text: it names a
message by its key and gives the values for the placeholders of that message.
-/
namespace BlockSketch

/-- How serious a notice is. Only errors make a program invalid. -/
inductive Severity
  | info | warning | error
deriving DecidableEq, Repr

instance : Vocabulary Severity where
  title := "Severity"
  values := [.info, .warning, .error]
  word
    | .info => "INFO"
    | .warning => "WARNING"
    | .error => "ERROR"

/-- The severity as it opens the text of a notice. -/
def Severity.label : Severity → String
  | .info => "info"
  | .warning => "warning"
  | .error => "error"

/-- The messages that a notice can carry. -/
inductive MessageKey
  | overlappingPorts | missingPort
  | sensorMissing | sensorWrong | actorMissing | actorWrong
  | usedBeforeDeclaration | declaredTwice
  | flowOutsideLoop | powerOutOfRange
  | typeMismatch | binaryOperands | unaryOperand
deriving DecidableEq, Repr

instance : Vocabulary MessageKey where
  title := "Message"
  values :=
    [.overlappingPorts, .missingPort, .sensorMissing, .sensorWrong, .actorMissing, .actorWrong,
     .usedBeforeDeclaration, .declaredTwice, .flowOutsideLoop, .powerOutOfRange,
     .typeMismatch, .binaryOperands, .unaryOperand]
  word
    | .overlappingPorts => "CONFIGURATION_ERROR_OVERLAPPING_PORTS"
    | .missingPort => "CONFIGURATION_ERROR_MISSING_PORT"
    | .sensorMissing => "CONFIGURATION_ERROR_SENSOR_MISSING"
    | .sensorWrong => "CONFIGURATION_ERROR_SENSOR_WRONG"
    | .actorMissing => "CONFIGURATION_ERROR_ACTOR_MISSING"
    | .actorWrong => "CONFIGURATION_ERROR_ACTOR_WRONG"
    | .usedBeforeDeclaration => "VARIABLE_USED_BEFORE_DECLARATION"
    | .declaredTwice => "VARIABLE_DECLARED_TWICE"
    | .flowOutsideLoop => "FLOW_CONTROL_OUTSIDE_LOOP"
    | .powerOutOfRange => "MOTOR_POWER_OUT_OF_RANGE"
    | .typeMismatch => "TYPE_ERROR_MISMATCH"
    | .binaryOperands => "TYPE_ERROR_BINARY_OPERANDS"
    | .unaryOperand => "TYPE_ERROR_UNARY_OPERAND"

/-- One notice. The parameters keep their order. -/
structure Notice where
  severity : Severity
  message : MessageKey
  parameters : List (String × String)
deriving DecidableEq, Repr

namespace Notice

/-- An error with its parameters. -/
def error (message : MessageKey) (parameters : List (String × String)) : Notice :=
  ⟨.error, message, parameters⟩

/-- A warning with its parameters. -/
def warning (message : MessageKey) (parameters : List (String × String)) : Notice :=
  ⟨.warning, message, parameters⟩

/-- Whether the notice is an error. -/
def isError (notice : Notice) : Bool :=
  notice.severity == .error

/-- The value of the first parameter with this name. -/
def parameter? (notice : Notice) (name : String) : Option String :=
  notice.parameters.lookup name

/-- The notice in one line: severity, message, and the parameters in brackets
    if there are any. -/
def text (notice : Notice) : String :=
  let head := notice.severity.label ++ ": " ++ Vocabulary.word notice.message
  if notice.parameters.isEmpty then head
  else
    let shown := notice.parameters.map fun (name, value) => name ++ "=" ++ value
    head ++ " [" ++ ", ".intercalate shown ++ "]"

/-- The number of errors among the notices. -/
def errorCount (notices : List Notice) : Nat :=
  notices.countP isError

/-- Whether one of the notices carries the message. -/
def anyOf (notices : List Notice) (message : MessageKey) : Bool :=
  notices.any fun notice => notice.message == message

end Notice
end BlockSketch
