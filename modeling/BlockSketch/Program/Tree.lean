import BlockSketch.Annotations
import BlockSketch.Decimal.Numeral
import BlockSketch.Program.Kind
import BlockSketch.Program.Words
import BlockSketch.Text.Identifier

/-!
Block programs as trees. Expressions and statements are types of their own, so
a node can only stand where its category allows; names, numbers and timers
carry the proofs that they are well formed.

Every node has a label. Its position tells the node apart from all others, and
notices are attached to positions; the rest of the label is what the editor
keeps with the block.
-/
namespace BlockSketch

/-- Where a node stands, the step from its parent first. -/
abbrev Position := List Nat

/-- The identity of a node and what the editor keeps with it. -/
structure Label where
  position : Position
  notes : Annotations
deriving DecidableEq, Repr

def Label.blockId? (label : Label) : Option String :=
  label.notes.blockId?

/-- The sensors that read a component of the configuration. -/
inductive Sensor
  | key | ultrasonic | light | temperature
deriving DecidableEq, Repr

def Sensor.kind : Sensor → Kind
  | .key => .keySensing
  | .ultrasonic => .ultrasonicSensing
  | .light => .lightSensing
  | .temperature => .temperatureSensing

/-- Keys are pressed or not; all other sensors measure. -/
def Sensor.type : Sensor → ValueType
  | .key => .boolean
  | .ultrasonic | .light | .temperature => .number

/-- Timers are numbered from one. -/
structure TimerId where
  number : UInt8
  positive : number ≠ 0
deriving DecidableEq

/-- Expressions and sensors. -/
inductive Expr
  | number (label : Label) (literal : Numeral)
  | boolean (label : Label) (value : Bool)
  | text (label : Label) (value : String)
  | var (label : Label) (name : Identifier) (type : ValueType)
  | binary (label : Label) (op : BinaryOp) (left right : Expr)
  | unary (label : Label) (op : UnaryOp) (operand : Expr)
  | sensor (label : Label) (device : Sensor) (port : Identifier)
  | timer (label : Label) (timer : TimerId)

/-- What keeps a repetition going. -/
inductive LoopHead
  | forever
  | times (count : Expr)
  | during (condition : Expr)
  | till (condition : Expr)

mutual

/-- Statements and actions. -/
inductive Stmt
  | light (label : Label) (color : LedColor) (blink : Bool)
  | lightStatus (label : Label) (status : LightStatus)
  | tone (label : Label) (port : Identifier) (frequency duration : Expr)
  | motorOn (label : Label) (port : Identifier) (power : Expr)
  | motorStop (label : Label) (port : Identifier)
  | showText (label : Label) (port : Identifier) (text : Expr)
  | serialWrite (label : Label) (value : Expr)
  | block (body : Sequence)
  | assign (label : Label) (name : Identifier) (value : Expr)
  | branch (label : Label) (branches : Branches)
  | loop (label : Label) (head : LoopHead) (body : Sequence)
  | flow (label : Label) (flow : Flow)
  | wait (label : Label) (time : Expr)

/-- A list of statements, which is a node itself. -/
inductive Sequence
  | mk (label : Label) (statements : List Stmt)

/-- The arms of a choice: at least one condition with its list, and perhaps a
    list for the case that no condition holds. -/
inductive Branches
  | only (condition : Expr) (body : Sequence)
  | orElse (condition : Expr) (body otherwise : Sequence)
  | orIf (condition : Expr) (body : Sequence) (rest : Branches)

end

/-- A variable of the program with its initial value. -/
structure Declaration where
  label : Label
  name : Identifier
  type : ValueType
  value : Expr

/-- The task that declares the variables. -/
structure Task where
  label : Label
  declarations : List Declaration

/-- A program: its variables and what it does. -/
structure Program where
  task : Task
  body : Sequence

/-- Any node of a program. -/
inductive Node
  | expr (expr : Expr)
  | stmt (stmt : Stmt)
  | declaration (declaration : Declaration)
  | task (task : Task)

namespace Expr

def label : Expr → Label
  | number label _ | boolean label _ | text label _ | var label _ _ | binary label _ _ _
  | unary label _ _ | sensor label _ _ | timer label _ => label

def kind : Expr → Kind
  | number .. => .numConst
  | boolean .. => .boolConst
  | text .. => .stringConst
  | var .. => .var
  | binary .. => .binary
  | unary .. => .unary
  | sensor _ device _ => device.kind
  | timer .. => .timerSensing

end Expr

namespace LoopHead

def mode : LoopHead → LoopMode
  | forever => .forever
  | times _ => .times
  | during _ => .during
  | till _ => .till

/-- The count or the condition. -/
def expression? : LoopHead → Option Expr
  | forever => none
  | times expr | during expr | till expr => some expr

end LoopHead

namespace Sequence

def label : Sequence → Label
  | mk label _ => label

def statements : Sequence → List Stmt
  | mk _ statements => statements

end Sequence

namespace Branches

/-- The conditions with their lists, in the order they are tried. -/
def arms : Branches → List (Expr × Sequence)
  | only condition body => [(condition, body)]
  | orElse condition body _ => [(condition, body)]
  | orIf condition body rest => (condition, body) :: rest.arms

/-- The list for the case that no condition holds. -/
def otherwise? : Branches → Option Sequence
  | only _ _ => none
  | orElse _ _ otherwise => some otherwise
  | orIf _ _ rest => rest.otherwise?

/-- The branches with these arms, of which there has to be one. -/
def ofArms? (otherwise : Option Sequence) : List (Expr × Sequence) → Option Branches
  | [] => none
  | [(condition, body)] =>
    match otherwise with
    | none => some (only condition body)
    | some list => some (orElse condition body list)
  | (condition, body) :: next :: rest => (ofArms? otherwise (next :: rest)).map (orIf condition body)

end Branches

namespace Stmt

def label : Stmt → Label
  | light label _ _ | lightStatus label _ | tone label _ _ _ | motorOn label _ _ | motorStop label _
  | showText label _ _ | serialWrite label _ | assign label _ _ | branch label _ | loop label _ _
  | flow label _ | wait label _ => label
  | block body => body.label

def kind : Stmt → Kind
  | light .. => .lightAction
  | lightStatus .. => .lightStatusAction
  | tone .. => .toneAction
  | motorOn .. => .motorOnAction
  | motorStop .. => .motorStopAction
  | showText .. => .showTextAction
  | serialWrite .. => .serialWriteAction
  | block .. => .stmtList
  | assign .. => .assignStmt
  | branch .. => .ifStmt
  | loop .. => .repeatStmt
  | flow .. => .flowControl
  | wait .. => .waitTime

end Stmt

namespace Node

def label : Node → Label
  | .expr node => node.label
  | .stmt node => node.label
  | .declaration node => node.label
  | .task node => node.label

def kind : Node → Kind
  | .expr node => node.kind
  | .stmt node => node.kind
  | .declaration _ => .varDeclaration
  | .task _ => .mainTask

/-- The node in a few words: constants, variables and lights show what they
    hold, all others their kind. -/
def text : Node → String
  | .expr (.number _ literal) => "NumConst [" ++ literal.text ++ "]"
  | .expr (.boolean _ value) => "BoolConst [" ++ toString value ++ "]"
  | .expr (.text _ value) => "StringConst [" ++ value ++ "]"
  | .expr (.var _ name _) => "Var [" ++ name.text ++ "]"
  | .stmt (.light _ color blink) =>
    "LightAction [" ++ Vocabulary.word color ++ ", " ++ toString blink ++ "]"
  | node => node.kind.word

end Node

theorem Expr.kind_isExpression (expr : Expr) : expr.kind.isExpression = true := by
  cases expr with
  | sensor _ device _ => cases device <;> rfl
  | _ => rfl

theorem Stmt.kind_isStatement (stmt : Stmt) : stmt.kind.isStatement = true := by
  cases stmt <;> rfl

end BlockSketch
