import BlockSketch.Decimal.Shortest
import BlockSketch.Finding
import BlockSketch.Hardware

/-!
Checks on a program that go beyond the shape of its nodes: names are declared
once and before they are used, repetitions are left only from inside, constant
motor power is in range, and, against a configuration, every block that names a
component finds it with the type it needs.

Each check looks at one node and at what surrounds it.
-/
namespace BlockSketch

/-- The constant that an expression is: a number, or the negation of one. -/
def Expr.constant? : Expr → Option Double
  | .number _ literal => some literal.value
  | .unary _ .neg operand => operand.constant?.map Double.neg
  | _ => none

/-- Motors take powers from -100 to 100. -/
def Double.isMotorPower (power : Double) : Bool :=
  power.units ≤ 100 * Double.one

namespace HardwareRole

/-- The message for a component that is not configured. -/
def missing : HardwareRole → MessageKey
  | sensor => .sensorMissing
  | actor => .actorMissing

/-- The message for a component that is configured with another type. -/
def wrong : HardwareRole → MessageKey
  | sensor => .sensorWrong
  | actor => .actorWrong

end HardwareRole

namespace Validation

/-- A name that is used has to be declared before. -/
def nameNotices (scope : List Identifier) (name : Identifier) : List Notice :=
  if name ∈ scope then [] else [.error .usedBeforeDeclaration [("name", name.text)]]

/-- A component that is used has to be configured with the right type. -/
def componentNotices (configuration : Configuration) (use : ComponentUse) : List Notice :=
  match use.wired configuration with
  | .right => []
  | .missing => [.error use.role.missing [("name", use.name.text)]]
  | .wrong found =>
    [.error use.role.wrong [("name", use.name.text), ("expected", use.type.tag), ("found", found.tag)]]

/-- A constant power outside the range of motors earns a warning. -/
def powerNotices (power : Expr) : List Notice :=
  match power.constant? with
  | some value =>
    if value.isMotorPower then [] else [.warning .powerOutOfRange [("power", value.text)]]
  | none => []

theorem eq_warning_of_powerNotices {power : Expr} {notice : Notice} (noticed : notice ∈ powerNotices power) :
    ∃ parameters, notice = .warning .powerOutOfRange parameters := by
  unfold powerNotices at noticed
  split at noticed
  · split at noticed
    · cases noticed
    · exact ⟨_, List.mem_singleton.mp noticed⟩
  · cases noticed

/-- What is wrong with the hardware that a node names. -/
def hardwareNotices (configuration : Option Configuration) (node : Node) : List Notice :=
  match configuration, node.componentUse? with
  | some configuration, some use => componentNotices configuration use
  | _, _ => []

/-- What is wrong with a node apart from hardware. -/
def programNotices (occurrence : Occurrence) : List Notice :=
  match occurrence.node with
  | .expr (.var _ name _) => nameNotices occurrence.scope name
  | .stmt (.assign _ name _) => nameNotices occurrence.scope name
  | .stmt (.motorOn _ _ power) => powerNotices power
  | .stmt (.flow _ way) =>
    if occurrence.inLoop then [] else [.error .flowOutsideLoop [("flow", Vocabulary.word way)]]
  | .declaration declaration =>
    if declaration.name ∈ occurrence.scope then
      [.error .declaredTwice [("name", declaration.name.text)]]
    else []
  | _ => []

/-- What is wrong with a node, its hardware first. -/
def notices (configuration : Option Configuration) (occurrence : Occurrence) : List Notice :=
  hardwareNotices configuration occurrence.node ++ programNotices occurrence

/-- The notices of a node as findings. -/
def nodeFindings (configuration : Option Configuration) (occurrence : Occurrence) : List Finding :=
  (notices configuration occurrence).map fun notice =>
    ⟨.block occurrence.node.label.position, notice⟩

end Validation

/-- All that is wrong with the program, and, with a configuration, with the
    hardware it names. -/
def Program.validate (program : Program) (configuration : Option Configuration) : List Finding :=
  program.occurrences.flatMap (Validation.nodeFindings configuration)

end BlockSketch
