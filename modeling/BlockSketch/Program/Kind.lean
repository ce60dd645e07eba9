import BlockSketch.Vocabulary

/-!
The kinds of nodes that a block program consists of, and the categories that
decide where a node may stand.
-/
namespace BlockSketch

/-- Where a node may stand: expressions and sensors have a value, statements
    and actors do something, tasks stand at the top only. -/
inductive Category
  | expr | sensor | actor | stmt | task
deriving DecidableEq, Repr

instance : Vocabulary Category where
  title := "Category"
  values := [.expr, .sensor, .actor, .stmt, .task]
  word
    | .expr => "EXPR"
    | .sensor => "SENSOR"
    | .actor => "ACTOR"
    | .stmt => "STMT"
    | .task => "TASK"

/-- The kind of a node. -/
inductive Kind
  | numConst | boolConst | stringConst | var | binary | unary
  | keySensing | ultrasonicSensing | lightSensing | temperatureSensing | timerSensing
  | lightAction | lightStatusAction | toneAction | motorOnAction | motorStopAction
  | showTextAction | serialWriteAction
  | stmtList | assignStmt | ifStmt | repeatStmt | flowControl | waitTime
  | varDeclaration | mainTask
deriving DecidableEq, Repr

instance : Vocabulary Kind where
  title := "PhraseKind"
  values :=
    [.numConst, .boolConst, .stringConst, .var, .binary, .unary,
     .keySensing, .ultrasonicSensing, .lightSensing, .temperatureSensing, .timerSensing,
     .lightAction, .lightStatusAction, .toneAction, .motorOnAction, .motorStopAction,
     .showTextAction, .serialWriteAction,
     .stmtList, .assignStmt, .ifStmt, .repeatStmt, .flowControl, .waitTime,
     .varDeclaration, .mainTask]
  word
    | .numConst => "NUM_CONST"
    | .boolConst => "BOOL_CONST"
    | .stringConst => "STRING_CONST"
    | .var => "VAR"
    | .binary => "BINARY"
    | .unary => "UNARY"
    | .keySensing => "KEY_SENSING"
    | .ultrasonicSensing => "ULTRASONIC_SENSING"
    | .lightSensing => "LIGHT_SENSING"
    | .temperatureSensing => "TEMPERATURE_SENSING"
    | .timerSensing => "TIMER_SENSING"
    | .lightAction => "LIGHT_ACTION"
    | .lightStatusAction => "LIGHT_STATUS_ACTION"
    | .toneAction => "TONE_ACTION"
    | .motorOnAction => "MOTOR_ON_ACTION"
    | .motorStopAction => "MOTOR_STOP_ACTION"
    | .showTextAction => "SHOW_TEXT_ACTION"
    | .serialWriteAction => "SERIAL_WRITE_ACTION"
    | .stmtList => "STMT_LIST"
    | .assignStmt => "ASSIGN_STMT"
    | .ifStmt => "IF_STMT"
    | .repeatStmt => "REPEAT_STMT"
    | .flowControl => "FLOW_CONTROL"
    | .waitTime => "WAIT_TIME"
    | .varDeclaration => "VAR_DECLARATION"
    | .mainTask => "MAIN_TASK"

namespace Kind

/-- The word of the kind. -/
def word (kind : Kind) : String :=
  Vocabulary.word kind

/-- The category that nodes of this kind belong to. -/
def category : Kind → Category
  | numConst | boolConst | stringConst | var | binary | unary => .expr
  | keySensing | ultrasonicSensing | lightSensing | temperatureSensing | timerSensing => .sensor
  | lightAction | lightStatusAction | toneAction | motorOnAction | motorStopAction
  | showTextAction | serialWriteAction => .actor
  | stmtList | assignStmt | ifStmt | repeatStmt | flowControl | waitTime => .stmt
  | varDeclaration | mainTask => .task

/-- Whether nodes of this kind have a value. -/
def isExpression (kind : Kind) : Bool :=
  kind.category == .expr || kind.category == .sensor

/-- Whether nodes of this kind may stand in a list of statements. -/
def isStatement (kind : Kind) : Bool :=
  kind.category == .stmt || kind.category == .actor

end Kind
end BlockSketch
