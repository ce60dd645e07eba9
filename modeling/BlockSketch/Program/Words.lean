import BlockSketch.Vocabulary

/-!
The words that blocks are parametrised by: operators, types of values, colours
and states of the light, modes of repetition and ways to leave it.
-/
namespace BlockSketch

/-- The operators with two operands. -/
inductive BinaryOp
  | add | minus | multiply | divide | mod
  | eq | neq | lt | lte | gt | gte
  | and | or
deriving DecidableEq, Repr

instance : Vocabulary BinaryOp where
  title := "BinaryOp"
  values := [.add, .minus, .multiply, .divide, .mod, .eq, .neq, .lt, .lte, .gt, .gte, .and, .or]
  word
    | .add => "ADD"
    | .minus => "MINUS"
    | .multiply => "MULTIPLY"
    | .divide => "DIVIDE"
    | .mod => "MOD"
    | .eq => "EQ"
    | .neq => "NEQ"
    | .lt => "LT"
    | .lte => "LTE"
    | .gt => "GT"
    | .gte => "GTE"
    | .and => "AND"
    | .or => "OR"

/-- The four classes of operators with two operands. Every operator is in
    exactly one. -/
inductive OperatorClass
  | arithmetic | ordering | equality | logical
deriving DecidableEq, Repr

namespace BinaryOp

def operatorClass : BinaryOp → OperatorClass
  | add | minus | multiply | divide | mod => .arithmetic
  | lt | lte | gt | gte => .ordering
  | eq | neq => .equality
  | and | or => .logical

/-- The operator as it is written in a sketch. -/
def symbol : BinaryOp → String
  | add => "+"
  | minus => "-"
  | multiply => "*"
  | divide => "/"
  | mod => "%"
  | eq => "=="
  | neq => "!="
  | lt => "<"
  | lte => "<="
  | gt => ">"
  | gte => ">="
  | and => "&&"
  | or => "||"

/-- How tightly the operator binds; more is tighter. -/
def precedence : BinaryOp → Nat
  | or => 1
  | and => 2
  | eq | neq => 3
  | lt | lte | gt | gte => 4
  | add | minus => 5
  | multiply | divide | mod => 6

end BinaryOp

/-- The operators with one operand. -/
inductive UnaryOp
  | neg | not
deriving DecidableEq, Repr

instance : Vocabulary UnaryOp where
  title := "UnaryOp"
  values := [.neg, .not]
  word
    | .neg => "NEG"
    | .not => "NOT"

/-- The operator as it is written in a sketch. -/
def UnaryOp.symbol : UnaryOp → String
  | .neg => "-"
  | .not => "!"

/-- The types that an expression can have. -/
inductive ValueType
  | number | boolean | string
deriving DecidableEq, Repr

def ValueType.word : ValueType → String
  | .number => "NUMBER"
  | .boolean => "BOOLEAN"
  | .string => "STRING"

/-- The types that a block can be tagged with: the type of a value, or none. -/
inductive DataType
  | value (type : ValueType)
  | void
deriving DecidableEq, Repr

instance : Vocabulary DataType where
  title := "BlocklyType"
  values := [.value .number, .value .boolean, .value .string, .void]
  word
    | .value type => type.word
    | .void => "VOID"

/-- Whether a variable can have the type. -/
def DataType.isValue : DataType → Bool
  | .value _ => true
  | .void => false

/-- The colours of the light on the board. -/
inductive LedColor
  | green | orange | red
deriving DecidableEq, Repr

instance : Vocabulary LedColor where
  title := "BrickLedColor"
  values := [.green, .orange, .red]
  word
    | .green => "GREEN"
    | .orange => "ORANGE"
    | .red => "RED"

/-- The states that the light can be put back into. -/
inductive LightStatus
  | off | reset
deriving DecidableEq, Repr

instance : Vocabulary LightStatus where
  title := "LightStatus"
  values := [.off, .reset]
  word
    | .off => "OFF"
    | .reset => "RESET"

/-- What ends a repetition: nothing, a count, or a condition. -/
inductive LoopMode
  | forever | times | during | till
deriving DecidableEq, Repr

instance : Vocabulary LoopMode where
  title := "RepeatMode"
  values := [.forever, .times, .during, .till]
  word
    | .forever => "FOREVER"
    | .times => "TIMES"
    | .during => "WHILE"
    | .till => "UNTIL"

/-- The ways to leave a round of a repetition. -/
inductive Flow
  | break | continue
deriving DecidableEq, Repr

instance : Vocabulary Flow where
  title := "Flow"
  values := [.break, .continue]
  word
    | .break => "BREAK"
    | .continue => "CONTINUE"

end BlockSketch
