import BlockSketch.Typing.Fault

/-!
Types of expressions, and the type errors of a program. An expression with an
error in it has no type, and nothing around it complains about that again, so
each mistake is reported once.
-/
namespace BlockSketch.Typing

/-- The declared variables with their types, in the order of declaration. -/
abbrev Env := List (Identifier × ValueType)

/-- The type of a variable: that of its first declaration. -/
def Env.type? (env : Env) (name : Identifier) : Option ValueType :=
  (env.find? fun entry => entry.1 = name).map Prod.snd

/-- The type of an operation, if its operands have the right types. -/
def binaryType? (op : BinaryOp) (left right : ValueType) : Option ValueType :=
  match op.operatorClass, left, right with
  | .arithmetic, .number, .number => some .number
  | .ordering, .number, .number => some .boolean
  | .logical, .boolean, .boolean => some .boolean
  | .equality, left, right => if left = right then some .boolean else none
  | _, _, _ => none

/-- The type that an operator with one operand takes and gives. -/
def unaryType : UnaryOp → ValueType
  | .neg => .number
  | .not => .boolean

/-- The type of an expression, if there is no error in it. A variable that is
    not declared has the type of its tag. -/
def infer? (env : Env) : Expr → Option ValueType
  | .number .. => some .number
  | .boolean .. => some .boolean
  | .text .. => some .string
  | .var _ name type =>
    match env.type? name with
    | none => some type
    | some declared => if declared = type then some type else none
  | .binary _ op left right =>
    match infer? env left, infer? env right with
    | some left, some right => binaryType? op left right
    | _, _ => none
  | .unary _ op operand => (infer? env operand).filter fun found => found = unaryType op
  | .sensor _ device _ => some device.type
  | .timer .. => some .number

/-- The error of the expression itself, given that there is none inside it. -/
def ownFault? (env : Env) : Expr → Option Fault
  | .var label name type =>
    match env.type? name with
    | none => none
    | some declared =>
      if declared = type then none else some ⟨label, .mismatch declared type (.use name)⟩
  | .binary label op left right =>
    match infer? env left, infer? env right with
    | some left, some right =>
      if binaryType? op left right = none then some ⟨label, .binaryOperands op left right⟩ else none
    | _, _ => none
  | .unary label op operand =>
    match infer? env operand with
    | some found => if found = unaryType op then none else some ⟨label, .unaryOperand op found⟩
    | none => none
  | _ => none

/-- The errors in an expression, those of the operands before its own. -/
def faults (env : Env) : Expr → List Fault
  | expr@(.binary _ _ left right) => faults env left ++ faults env right ++ (ownFault? env expr).toList
  | expr@(.unary _ _ operand) => faults env operand ++ (ownFault? env expr).toList
  | expr => (ownFault? env expr).toList

/-- The error of a value that has another type than the one that is asked for.
    It is reported at the node with this label. -/
def slotFault? (env : Env) (label : Label) (expr : Expr) (expected : ValueType) (slot : Slot) :
    Option Fault :=
  match infer? env expr with
  | some found => if found = expected then none else some ⟨label, .mismatch expected found slot⟩
  | none => none

/-- The errors of an expression in a slot, its own and then the slot's. -/
def slotFaults (env : Env) (expr : Expr) (expected : ValueType) (slot : Slot) : List Fault :=
  faults env expr ++ (slotFault? env expr.label expr expected slot).toList

/-- The errors of a value for a variable, which is checked against the declared
    type if there is one. -/
def assignFaults (env : Env) (name : Identifier) (value : Expr) : List Fault :=
  match env.type? name with
  | some expected => slotFaults env value expected (.assignment name)
  | none => faults env value

def headFaults (env : Env) : LoopHead → List Fault
  | .forever => []
  | .times count => slotFaults env count .number .repeatCount
  | .during condition => slotFaults env condition .boolean .condition
  | .till condition => slotFaults env condition .boolean .condition

mutual

def stmtFaults (env : Env) : Stmt → List Fault
  | .light .. => []
  | .lightStatus .. => []
  | .tone _ _ frequency duration =>
    slotFaults env frequency .number .toneFrequency ++ slotFaults env duration .number .toneDuration
  | .motorOn _ _ power => slotFaults env power .number .motorPower
  | .motorStop .. => []
  | .showText _ _ text => faults env text
  | .serialWrite _ value => faults env value
  | .block body => sequenceFaults env body
  | .assign _ name value => assignFaults env name value
  | .branch _ branches => branchFaults env branches
  | .loop _ head body => headFaults env head ++ sequenceFaults env body
  | .flow .. => []
  | .wait _ time => slotFaults env time .number .waitTime

def sequenceFaults (env : Env) : Sequence → List Fault
  | .mk _ statements => listFaults env statements

def listFaults (env : Env) : List Stmt → List Fault
  | [] => []
  | stmt :: rest => stmtFaults env stmt ++ listFaults env rest

def branchFaults (env : Env) : Branches → List Fault
  | .only condition body => slotFaults env condition .boolean .condition ++ sequenceFaults env body
  | .orElse condition body otherwise =>
    slotFaults env condition .boolean .condition ++ sequenceFaults env body ++
      sequenceFaults env otherwise
  | .orIf condition body rest =>
    slotFaults env condition .boolean .condition ++ sequenceFaults env body ++ branchFaults env rest

end

/-- The errors of an initial value, and of the declaration if the value has
    another type than the declared one. -/
def declarationFaults (env : Env) (declaration : Declaration) : List Fault :=
  faults env declaration.value ++
    (slotFault? env declaration.label declaration.value declaration.type
      (.definition declaration.name)).toList

/-- The variable that a declaration adds. -/
def entry (declaration : Declaration) : Identifier × ValueType :=
  (declaration.name, declaration.type)

/-- The errors of declarations, each checked against those before it. -/
def taskFaults (env : Env) : List Declaration → List Fault
  | [] => []
  | declaration :: rest =>
    declarationFaults env declaration ++ taskFaults (env ++ [entry declaration]) rest

/-- What the types of a program come to: the variables, and the errors in the
    order they are met. -/
structure Summary where
  env : Env
  faults : List Fault
deriving DecidableEq

/-- The type of a variable of the program. -/
def Summary.type? (summary : Summary) (name : String) : Option ValueType :=
  (summary.env.find? fun entry => entry.1.text == name).map Prod.snd

/-- Each variable once, with the type of its first declaration, ascending by
    name. -/
def Summary.declared (summary : Summary) : List (Identifier × ValueType) :=
  let names := (summary.env.map Prod.fst).eraseDups
  let known := names.filterMap fun name => (summary.env.type? name).map (name, ·)
  known.mergeSort fun first second => first.1.text ≤ second.1.text

end Typing

/-- The types of the program. -/
def Program.checkTypes (program : Program) : Typing.Summary :=
  let env := program.task.declarations.map Typing.entry
  { env
    faults := Typing.taskFaults [] program.task.declarations ++ Typing.sequenceFaults env program.body }

end BlockSketch
