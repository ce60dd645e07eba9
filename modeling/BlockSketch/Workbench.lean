import BlockSketch.Program.Assemble
import BlockSketch.Project.Workflow

/-!
A workbench for making nodes one by one. Every step on the bench owns the slot
with its number, and a node that is made lies in the slot of its step. Later
nodes and programs take their parts from slots. A node may be taken more than
once: it is the same node everywhere, and notices stay with it from one program
to the next.
-/
namespace BlockSketch

/-- A node to be made, with words and names as texts and children as slots. -/
inductive Recipe
  | number (value : String)
  | boolean (value : Bool)
  | text (value : String)
  | var (name type : String)
  | binary (op : String) (left right : Nat)
  | unary (op : String) (operand : Nat)
  | sensor (device : Sensor) (port : String)
  | timer (number : UInt8)
  | light (color : String) (blink : Bool)
  | lightStatus (status : String)
  | tone (port : String) (frequency duration : Nat)
  | motorOn (port : String) (power : Nat)
  | motorStop (port : String)
  | showText (port : String) (text : Nat)
  | serialWrite (value : Nat)
  | list (statements : List Nat)
  | assign (name : String) (value : Nat)
  | branch (conditions lists : List Nat) (otherwise : Option Nat)
  | loop (mode : String) (expression : Option Nat) (body : Nat)
  | flow (way : String)
  | wait (time : Nat)
  | declaration (name type : String) (value : Nat)
  | task (declarations : List Nat)
deriving DecidableEq, Repr

/-- Why a step on the bench fails. -/
inductive BenchError
  | emptySlot
  | rejected (error : DraftError)
deriving DecidableEq, Repr

/-- The slots that have been gone through, and the findings at their nodes. -/
structure Workbench where
  slots : List (Option Node) := []
  findings : List Finding := []

namespace Workbench

/-- The node in a slot. -/
def node (bench : Workbench) (slot : Nat) : Except BenchError Node :=
  match bench.slots[slot]? with
  | some (some node) => .ok node
  | _ => .error .emptySlot

/-- The list of statements in a slot. -/
def sequence (bench : Workbench) (slot : Nat) : Except BenchError Sequence := do
  match ← bench.node slot with
  | .stmt (.block body) => return body
  | _ => throw .emptySlot

/-- The declaration in a slot. -/
def declaration (bench : Workbench) (slot : Nat) : Except BenchError Declaration := do
  match ← bench.node slot with
  | .declaration declaration => return declaration
  | _ => throw .emptySlot

/-- The task in a slot. -/
def task (bench : Workbench) (slot : Nat) : Except BenchError Task := do
  match ← bench.node slot with
  | .task task => return task
  | _ => throw .emptySlot

/-- A check of parts, as a step on the bench. -/
def check {α : Type} (result : Except DraftError α) : Except BenchError α :=
  result.mapError .rejected

/-- The label of the node that is made next. -/
def nextLabel (bench : Workbench) (notes : Annotations) : Label :=
  ⟨[bench.slots.length], notes⟩

/-- The node that a recipe makes. Words are read before slots are looked up, but
    for repetitions, where it is the other way round. -/
def assemble (bench : Workbench) (label : Label) : Recipe → Except BenchError Node
  | .number value => check (Assemble.number label value)
  | .boolean value => check (Assemble.boolean label value)
  | .text value => check (Assemble.text label value)
  | .var name type => do
    let type ← check (Vocabulary.read type)
    check (Assemble.var label name type)
  | .binary op left right => do
    let op ← check (Vocabulary.read op)
    let left ← bench.node left
    let right ← bench.node right
    check (Assemble.binary label op left right)
  | .unary op operand => do
    let op ← check (Vocabulary.read op)
    let operand ← bench.node operand
    check (Assemble.unary label op operand)
  | .sensor device port => check (Assemble.sensor label device port)
  | .timer number => check (Assemble.timer label number)
  | .light color blink => do
    let color ← check (Vocabulary.read color)
    check (Assemble.light label color blink)
  | .lightStatus status => do
    let status ← check (Vocabulary.read status)
    check (Assemble.lightStatus label status)
  | .tone port frequency duration => do
    let frequency ← bench.node frequency
    let duration ← bench.node duration
    check (Assemble.tone label port frequency duration)
  | .motorOn port power => do
    let power ← bench.node power
    check (Assemble.motorOn label port power)
  | .motorStop port => check (Assemble.motorStop label port)
  | .showText port text => do
    let text ← bench.node text
    check (Assemble.showText label port text)
  | .serialWrite value => do
    let value ← bench.node value
    check (Assemble.serialWrite label value)
  | .list statements => do
    let statements ← statements.mapM bench.node
    let body ← check (Assemble.sequence label statements)
    return .stmt (.block body)
  | .assign name value => do
    let value ← bench.node value
    check (Assemble.assign label name value)
  | .branch conditions lists otherwise => do
    let conditions ← conditions.mapM bench.node
    let lists ← lists.mapM bench.sequence
    let otherwise ← otherwise.mapM bench.sequence
    check (Assemble.branch label conditions lists otherwise)
  | .loop mode expression body => do
    let expression ← expression.mapM bench.node
    let body ← bench.sequence body
    let mode ← check (Vocabulary.read mode)
    check (Assemble.loop label mode expression body)
  | .flow way => do
    let way ← check (Vocabulary.read way)
    check (Assemble.flow label way)
  | .wait time => do
    let time ← bench.node time
    check (Assemble.wait label time)
  | .declaration name type value => do
    let type ← check (Vocabulary.read type)
    let value ← bench.node value
    let declaration ← check (Assemble.declaration label name type value)
    return .declaration declaration
  | .task declarations => do
    let declarations ← declarations.mapM bench.declaration
    return .task ⟨label, declarations⟩

/-- The bench after a step that made this node, or none. -/
def push (bench : Workbench) (node : Option Node) : Workbench :=
  { bench with slots := bench.slots ++ [node] }

/-- The bench with one more notice at a node. -/
def addNotice (bench : Workbench) (node : Node) (notice : Notice) : Workbench :=
  { bench with findings := bench.findings ++ [⟨.block node.label.position, notice⟩] }

/-- The notices at a node. -/
def notices (bench : Workbench) (node : Node) : List Notice :=
  Finding.noticesAt bench.findings (.block node.label.position)

/-- A task without label, which belongs to no slot. -/
def looseTask (declarations : List Declaration) : Task :=
  ⟨⟨[], {}⟩, declarations⟩

/-- A project around nodes of the bench, with the notices they have. -/
def project (bench : Workbench) (task : Task) (body : Sequence) (configuration : Configuration) :
    Project :=
  { program := ⟨task, body⟩, configuration, findings := bench.findings }

/-- The bench after work on a project. Notices at components go with the
    project. -/
def takeBack (bench : Workbench) (project : Project) : Workbench :=
  { bench with
    findings := project.findings.filter fun finding =>
      match finding.place with
      | .block _ => true
      | .component _ => false }

end Workbench
end BlockSketch
