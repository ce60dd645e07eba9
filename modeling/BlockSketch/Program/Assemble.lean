import BlockSketch.Draft.Error
import BlockSketch.Program.Tree

/-!
Making one node from its parts. Each function takes the parts as they come, with
names as texts and children as nodes of any kind, checks them from the first to
the last, and gives the node or the first error.
-/
namespace BlockSketch.Assemble

/-- The child as an expression. -/
def expression (parent : Kind) (slot : String) : Node → Except DraftError Expr
  | .expr expr => .ok expr
  | node => .error (.invalidChild parent slot .expression node.kind)

/-- The child as a statement. -/
def statement (parent : Kind) (slot : String) : Node → Except DraftError Stmt
  | .stmt stmt => .ok stmt
  | node => .error (.invalidChild parent slot .statement node.kind)

/-- The name as an identifier. -/
def identifier (kind : Kind) (name : String) : Except DraftError Identifier :=
  match Identifier.ofString? name with
  | some identifier => .ok identifier
  | none => .error (.invalidIdentifier kind name)

/-- The type as one that a variable can have. -/
def valueType (kind : Kind) (name : String) : DataType → Except DraftError ValueType
  | .value type => .ok type
  | .void => .error (.malformed kind (.voidVariable name))

def number (label : Label) (raw : String) : Except DraftError Node :=
  match Numeral.ofString? raw with
  | some literal => .ok (.expr (.number label literal))
  | none => .error (.invalidNumber (Text.trim raw))

def boolean (label : Label) (value : Bool) : Except DraftError Node :=
  .ok (.expr (.boolean label value))

def text (label : Label) (value : String) : Except DraftError Node :=
  .ok (.expr (.text label value))

def var (label : Label) (name : String) (type : DataType) : Except DraftError Node := do
  let identifier ← identifier .var name
  let type ← valueType .var name type
  return .expr (.var label identifier type)

def binary (label : Label) (op : BinaryOp) (left right : Node) : Except DraftError Node := do
  let left ← expression .binary "left" left
  let right ← expression .binary "right" right
  return .expr (.binary label op left right)

def unary (label : Label) (op : UnaryOp) (operand : Node) : Except DraftError Node := do
  let operand ← expression .unary "expression" operand
  return .expr (.unary label op operand)

def sensor (label : Label) (device : Sensor) (port : String) : Except DraftError Node := do
  let port ← identifier device.kind port
  return .expr (.sensor label device port)

def timer (label : Label) (number : UInt8) : Except DraftError Node :=
  if positive : number ≠ 0 then .ok (.expr (.timer label ⟨number, positive⟩))
  else .error (.malformed .timerSensing .timerZero)

def light (label : Label) (color : LedColor) (blink : Bool) : Except DraftError Node :=
  .ok (.stmt (.light label color blink))

def lightStatus (label : Label) (status : LightStatus) : Except DraftError Node :=
  .ok (.stmt (.lightStatus label status))

def tone (label : Label) (port : String) (frequency duration : Node) : Except DraftError Node := do
  let port ← identifier .toneAction port
  let frequency ← expression .toneAction "frequency" frequency
  let duration ← expression .toneAction "duration" duration
  return .stmt (.tone label port frequency duration)

def motorOn (label : Label) (port : String) (power : Node) : Except DraftError Node := do
  let port ← identifier .motorOnAction port
  let power ← expression .motorOnAction "power" power
  return .stmt (.motorOn label port power)

def motorStop (label : Label) (port : String) : Except DraftError Node := do
  let port ← identifier .motorStopAction port
  return .stmt (.motorStop label port)

def showText (label : Label) (port : String) (shown : Node) : Except DraftError Node := do
  let port ← identifier .showTextAction port
  let shown ← expression .showTextAction "text" shown
  return .stmt (.showText label port shown)

def serialWrite (label : Label) (value : Node) : Except DraftError Node := do
  let value ← expression .serialWriteAction "value" value
  return .stmt (.serialWrite label value)

def sequence (label : Label) (statements : List Node) : Except DraftError Sequence := do
  let statements ← statements.mapM (statement .stmtList "statements")
  return .mk label statements

def assign (label : Label) (name : String) (value : Node) : Except DraftError Node := do
  let name ← identifier .assignStmt name
  let value ← expression .assignStmt "value" value
  return .stmt (.assign label name value)

/-- A choice needs a condition, and a list for each condition. -/
def branch (label : Label) (conditions : List Node) (lists : List Sequence)
    (otherwise : Option Sequence) : Except DraftError Node := do
  let uneven := DraftError.malformed .ifStmt (.unevenArms conditions.length lists.length)
  if conditions.length != lists.length then throw uneven
  let conditions ← conditions.mapM (expression .ifStmt "conditions")
  match Branches.ofArms? otherwise (conditions.zip lists) with
  | some branches => return .stmt (.branch label branches)
  | none => throw uneven

/-- A repetition has an expression unless it goes on forever. -/
def loop (label : Label) (mode : LoopMode) (head : Option Node) (body : Sequence) :
    Except DraftError Node :=
  match mode, head with
  | .forever, none => .ok (.stmt (.loop label .forever body))
  | .forever, some _ => .error (.malformed .repeatStmt .needlessExpression)
  | mode, none => .error (.malformed .repeatStmt (.missingExpression mode))
  | .times, some head => do
    let count ← expression .repeatStmt "expression" head
    return .stmt (.loop label (.times count) body)
  | .during, some head => do
    let condition ← expression .repeatStmt "expression" head
    return .stmt (.loop label (.during condition) body)
  | .till, some head => do
    let condition ← expression .repeatStmt "expression" head
    return .stmt (.loop label (.till condition) body)

def flow (label : Label) (way : Flow) : Except DraftError Node :=
  .ok (.stmt (.flow label way))

def wait (label : Label) (time : Node) : Except DraftError Node := do
  let time ← expression .waitTime "time" time
  return .stmt (.wait label time)

def declaration (label : Label) (name : String) (type : DataType) (value : Node) :
    Except DraftError Declaration := do
  let identifier ← identifier .varDeclaration name
  let type ← valueType .varDeclaration name type
  let value ← expression .varDeclaration "value" value
  return { label, name := identifier, type, value }

end BlockSketch.Assemble
