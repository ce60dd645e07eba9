import BlockSketch.Configuration.Basic
import BlockSketch.Program.Occurrence

/-!
The hardware that a program uses. A sketch sets up nothing else. What a program
uses is read off its nodes, so the order of its statements does not matter.
-/
namespace BlockSketch

/-- The component types that the sensors read. -/
def Sensor.componentType : Sensor → ComponentType
  | .key => .key
  | .ultrasonic => .ultrasonic
  | .light => .light
  | .temperature => .temperature

/-- Blocks that name a component either sense or act. -/
inductive HardwareRole
  | sensor | actor
deriving DecidableEq, Repr

/-- A component that a block names, with the type that the block needs. -/
structure ComponentUse where
  name : Identifier
  type : ComponentType
  role : HardwareRole
deriving DecidableEq

/-- The component that a node itself names. -/
def Node.componentUse? : Node → Option ComponentUse
  | .expr (.sensor _ device port) => some ⟨port, device.componentType, .sensor⟩
  | .stmt (.tone _ port _ _) => some ⟨port, .buzzer, .actor⟩
  | .stmt (.motorOn _ port _) => some ⟨port, .motor, .actor⟩
  | .stmt (.motorStop _ port) => some ⟨port, .motor, .actor⟩
  | .stmt (.showText _ port _) => some ⟨port, .lcd, .actor⟩
  | _ => none

/-- The timer that a node itself reads. -/
def Node.timer? : Node → Option UInt8
  | .expr (.timer _ timer) => some timer.number
  | _ => none

/-- Whether the node itself writes to the serial line. -/
def Node.usesSerial : Node → Bool
  | .stmt (.serialWrite ..) => true
  | _ => false

/-- Whether the node itself switches the light on the board. -/
def Node.usesBrickLight : Node → Bool
  | .stmt (.light ..) => true
  | .stmt (.lightStatus ..) => true
  | _ => false

/-- How the component that a block names is configured. -/
inductive Wired
  | right
  | missing
  | wrong (found : ComponentType)
deriving DecidableEq, Repr

/-- Whether the configuration has the component with the type that is needed. -/
def ComponentUse.wired (use : ComponentUse) (configuration : Configuration) : Wired :=
  match configuration.component? use.name.text with
  | none => .missing
  | some component => if component.type = use.type then .right else .wrong component.type

/-- Whether the use is one of hardware that is there. Without a configuration
    it is taken to be. -/
def ComponentUse.isWired (use : ComponentUse) : Option Configuration → Bool
  | none => true
  | some configuration => use.wired configuration == .right

/-- The components, timers and outputs that a program uses. Timers are
    ascending. -/
structure UsedHardware where
  components : List String
  timers : List UInt8
  serial : Bool
  brickLight : Bool
deriving DecidableEq, Repr

namespace UsedHardware

/-- The timers that occur in a list, ascending and each once. -/
def ascending (timers : List UInt8) : List UInt8 :=
  ((List.range 256).map UInt8.ofNat).filter fun timer => timers.contains timer

/-- The hardware with these components and timers, in any order. -/
def of (components : List String) (timers : List UInt8) (serial brickLight : Bool) : UsedHardware :=
  { components := components.eraseDups, timers := ascending timers, serial, brickLight }

/-- No hardware. -/
def none : UsedHardware :=
  of [] [] false false

/-- Whether the component is used. -/
def uses (used : UsedHardware) (name : String) : Bool :=
  used.components.contains name

end UsedHardware

/-- The hardware that the program uses. With a configuration, a component
    counts only if it is configured with the type that the block needs. -/
def Program.usedHardware (program : Program) (configuration : Option Configuration) : UsedHardware :=
  let nodes := program.occurrences.map Occurrence.node
  let uses := (nodes.filterMap Node.componentUse?).filter fun use => use.isWired configuration
  UsedHardware.of (uses.map fun use => use.name.text) (nodes.filterMap Node.timer?)
    (nodes.any Node.usesSerial) (nodes.any Node.usesBrickLight)

end BlockSketch
