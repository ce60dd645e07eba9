import BlockSketch.Hardware
import BlockSketch.Sketch.Render

/-!
Sketches from programs. A block that reads or drives a component needs the pins
of some roles; generation fails at the first pin that the configuration does
not give. The body comes first, then the initial values, then the components
that are used.
-/
namespace BlockSketch

/-- Why there is no sketch of a program. -/
inductive SketchError
  | missingComponent (name : String)
  | missingPort (component role : String)
deriving DecidableEq, Repr

/-- The error in one line. -/
def SketchError.message : SketchError → String
  | .missingComponent name => "program uses component `" ++ name ++ "` which is not configured"
  | .missingPort component role =>
    "component `" ++ component ++ "` has no pin for port role `" ++ role ++ "`"

namespace Sketch

/-- The constant for the pin of a role, if the configuration gives one. -/
def resolvePin (configuration : Configuration) (name : Identifier) (role : String) :
    Except SketchError Name :=
  match configuration.component? name.text with
  | none => .error (.missingComponent name.text)
  | some component =>
    match component.pin? role with
    | none => .error (.missingPort name.text role)
    | some _ => .ok (.pin name role)

/-- The object for a display, if the configuration has the component. -/
def resolveDisplay (configuration : Configuration) (name : Identifier) : Except SketchError Name :=
  match configuration.component? name.text with
  | none => .error (.missingComponent name.text)
  | some _ => .ok (.display name)

/-- The term that reads a sensor. -/
def sensorTerm (configuration : Configuration) (port : Identifier) : Sensor → Except SketchError Term
  | .key => do
    let pin ← resolvePin configuration port "PIN1"
    return .pressed pin
  | .ultrasonic => do
    let trigger ← resolvePin configuration port "TRIG"
    let echo ← resolvePin configuration port "ECHO"
    return .distance trigger echo
  | .light => do
    let pin ← resolvePin configuration port "OUTPUT"
    return .brightness pin
  | .temperature => do
    let pin ← resolvePin configuration port "OUTPUT"
    return .temperature pin

/-- The term of an expression. -/
def exprTerm (configuration : Configuration) : Expr → Except SketchError Term
  | .number _ literal => .ok (.number literal)
  | .boolean _ value => .ok (.boolean value)
  | .text _ value => .ok (.text value)
  | .var _ name _ => .ok (.name (.var name))
  | .binary _ op left right => do
    let left ← exprTerm configuration left
    let right ← exprTerm configuration right
    return .binary op left right
  | .unary _ op operand => do
    let operand ← exprTerm configuration operand
    return .unary op operand
  | .sensor _ device port => sensorTerm configuration port device
  | .timer _ timer => .ok (.elapsed (.timer timer.number))

/-- Whether a repetition has a counter. -/
def headLoops : LoopHead → Nat
  | .times _ => 1
  | _ => 0

mutual

/-- The number of counted loops in a statement. -/
def stmtLoops : Stmt → Nat
  | .block body => sequenceLoops body
  | .branch _ branches => branchLoops branches
  | .loop _ head body => headLoops head + sequenceLoops body
  | _ => 0

def sequenceLoops : Sequence → Nat
  | .mk _ statements => listLoops statements

def listLoops : List Stmt → Nat
  | [] => 0
  | stmt :: rest => stmtLoops stmt + listLoops rest

def branchLoops : Branches → Nat
  | .only _ body => sequenceLoops body
  | .orElse _ body otherwise => sequenceLoops body + sequenceLoops otherwise
  | .orIf _ body rest => sequenceLoops body + branchLoops rest

end

/-- The head of a loop, whose counter has this index if it has one. -/
def loopHead (configuration : Configuration) (index : Nat) : LoopHead → Except SketchError Head
  | .forever => .ok .forever
  | .times count => do
    let count ← exprTerm configuration count
    return .counted (.counter index) count
  | .during condition => do
    let condition ← exprTerm configuration condition
    return .during condition
  | .till condition => do
    let condition ← exprTerm configuration condition
    return .till condition

mutual

/-- The instructions of a statement. Its counted loops take the counters from
    `index` on, an outer loop before those inside it. -/
def stmtCode (configuration : Configuration) (index : Nat) : Stmt → Except SketchError (List Instruction)
  | .light _ color blink => .ok [.command (.setLight color blink)]
  | .lightStatus _ .off => .ok [.command .clearLight]
  | .lightStatus _ .reset => .ok [.command .resetLight]
  | .tone _ port frequency duration => do
    let pin ← resolvePin configuration port "+"
    let frequency ← exprTerm configuration frequency
    let duration ← exprTerm configuration duration
    return [.command (.tone pin frequency duration)]
  | .motorOn _ port power => do
    let forward ← resolvePin configuration port "IN1"
    let backward ← resolvePin configuration port "IN2"
    let power ← exprTerm configuration power
    return [.command (.drive forward backward power)]
  | .motorStop _ port => do
    let forward ← resolvePin configuration port "IN1"
    let backward ← resolvePin configuration port "IN2"
    return [.command (.halt forward backward)]
  | .showText _ port text => do
    let display ← resolveDisplay configuration port
    let text ← exprTerm configuration text
    return [.command (.print display text)]
  | .serialWrite _ value => do
    let value ← exprTerm configuration value
    return [.command (.send value)]
  | .block body => sequenceCode configuration index body
  | .assign _ name value => do
    let value ← exprTerm configuration value
    return [.command (.assign (.var name) value)]
  | .branch _ branches => do
    let choice ← branchCode configuration index branches
    return [.choice choice]
  | .loop _ head body => do
    let loop ← loopHead configuration index head
    let body ← sequenceCode configuration (index + headLoops head) body
    return [.loop loop body]
  | .flow _ way => .ok [.command (.leave way)]
  | .wait _ time => do
    let time ← exprTerm configuration time
    return [.command (.pause time)]

def sequenceCode (configuration : Configuration) (index : Nat) :
    Sequence → Except SketchError (List Instruction)
  | .mk _ statements => listCode configuration index statements

def listCode (configuration : Configuration) (index : Nat) :
    List Stmt → Except SketchError (List Instruction)
  | [] => .ok []
  | stmt :: rest => do
    let first ← stmtCode configuration index stmt
    let others ← listCode configuration (index + stmtLoops stmt) rest
    return first ++ others

def branchCode (configuration : Configuration) (index : Nat) : Branches → Except SketchError Choice
  | .only condition body => do
    let condition ← exprTerm configuration condition
    let body ← sequenceCode configuration index body
    return .only condition body
  | .orElse condition body otherwise => do
    let condition ← exprTerm configuration condition
    let first ← sequenceCode configuration index body
    let second ← sequenceCode configuration (index + sequenceLoops body) otherwise
    return .orElse condition first second
  | .orIf condition body rest => do
    let condition ← exprTerm configuration condition
    let first ← sequenceCode configuration index body
    let others ← branchCode configuration (index + sequenceLoops body) rest
    return .orIf condition first others

end

/-- The command that gives a variable its initial value. -/
def initialCommand (configuration : Configuration) (declaration : Declaration) :
    Except SketchError Command := do
  let value ← exprTerm configuration declaration.value
  return .assign (.var declaration.name) value

/-- The configured components that are used, in the order of the
    configuration. -/
def usedComponents (configuration : Configuration) (used : UsedHardware) : List Component :=
  configuration.components.filter fun component => used.uses component.name.text

/-- The constants for the pins that a component of its type needs. -/
def pinDefinitions (component : Component) : List String → Except SketchError (List Definition)
  | [] => .ok []
  | role :: rest =>
    match component.pin? role with
    | none => .error (.missingPort component.name.text role)
    | some wired => do
      let others ← pinDefinitions component rest
      return .pin (.pin component.name role) wired :: others

/-- The definitions for a component: its pins, and the object if it is a
    display. -/
def componentDefinitions (component : Component) : Except SketchError (List Definition) := do
  let roles := component.type.requiredRoles
  let pins ← pinDefinitions component roles
  if component.type = .lcd then
    return pins ++ [.display (.display component.name) (roles.map (.pin component.name))]
  else return pins

/-- The roles whose pins are set up, with the mode of each. -/
def pinModes : ComponentType → List (String × PinMode)
  | .key => [("PIN1", .input)]
  | .ultrasonic => [("TRIG", .output), ("ECHO", .input)]
  | .buzzer => [("+", .output)]
  | .motor => [("IN1", .output), ("IN2", .output)]
  | .led => [("INPUT", .output)]
  | .lcd | .light | .temperature | .other _ => []

/-- The commands that set up a component. -/
def componentSetup (configuration : Configuration) (component : Component) :
    Except SketchError (List Command) := do
  let modes ← (pinModes component.type).mapM fun (role, mode) => do
    let pin ← resolvePin configuration component.name role
    return Command.pinMode pin mode
  if component.type = .lcd then return .startDisplay (.display component.name) :: modes
  else return modes

/-- The variables and timers of the sketch. -/
def programGlobals (program : Program) (used : UsedHardware) : List Global :=
  program.task.declarations.map (fun declaration => .var (.var declaration.name) declaration.type) ++
    used.timers.map (fun number => .timer (.timer number))

end Sketch

/-- The sketch of a program that uses this hardware of a configuration. -/
def Program.sketch (program : Program) (configuration : Configuration) (used : UsedHardware) :
    Except SketchError Sketch := do
  let loop ← Sketch.sequenceCode configuration 0 program.body
  let initial ← program.task.declarations.mapM (Sketch.initialCommand configuration)
  let components := Sketch.usedComponents configuration used
  let definitions ← components.mapM Sketch.componentDefinitions
  let setup ← components.mapM (Sketch.componentSetup configuration)
  return {
    usesDisplay := components.any fun component => component.type = .lcd
    definitions := definitions.flatten
    globals := Sketch.programGlobals program used
    setup := (if used.serial then [.openSerial] else []) ++ setup.flatten ++ initial
    loop }

/-- The text of the sketch of a program. -/
def Program.generate (program : Program) (configuration : Configuration) (used : UsedHardware) :
    Except SketchError String :=
  (program.sketch configuration used).map Sketch.render

end BlockSketch
