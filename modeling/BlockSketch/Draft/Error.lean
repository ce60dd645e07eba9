import BlockSketch.Program.Kind
import BlockSketch.Program.Words

/-!
Why a draft of a program or of a configuration is no program or configuration.
-/
namespace BlockSketch

/-- The two roles that a child of a node can have. -/
inductive ChildRole
  | expression | statement
deriving DecidableEq, Repr

def ChildRole.text : ChildRole → String
  | .expression => "an expression"
  | .statement => "a statement"

/-- Flaws in what a node is given, apart from its children. -/
inductive Flaw
  | voidVariable (name : String)
  | timerZero
  | unevenArms (conditions lists : Nat)
  | needlessExpression
  | missingExpression (mode : LoopMode)
deriving DecidableEq, Repr

def Flaw.text : Flaw → String
  | .voidVariable name => "variable `" ++ name ++ "` cannot have type VOID"
  | .timerZero => "timers are numbered from 1"
  | .unevenArms conditions lists =>
    toString conditions ++ " condition(s) for " ++ toString lists ++ " then-list(s)"
  | .needlessExpression => "FOREVER takes no expression"
  | .missingExpression mode => Vocabulary.word mode ++ " requires an expression"

/-- Why a draft is rejected. -/
inductive DraftError
  | invalidChild (parent : Kind) (slot : String) (expected : ChildRole) (found : Kind)
  | invalidNumber (text : String)
  | invalidIdentifier (kind : Kind) (name : String)
  | missingField (kind : Kind) (field : String)
  | unknownWord (title text : String)
  | malformed (kind : Kind) (flaw : Flaw)
  | invalidComponentName (name : String)
  | duplicateComponentName (name : String)
  | duplicatePortRole (component role : String)
  | invalidPin (component role pin : String)
deriving DecidableEq, Repr

/-- The error in one line. -/
def DraftError.message : DraftError → String
  | .invalidChild parent slot expected found =>
    parent.word ++ " expects " ++ expected.text ++ " in `" ++ slot ++ "`, found " ++ found.word ++
      " (" ++ Vocabulary.word found.category ++ ")"
  | .invalidNumber text => "invalid numeric literal `" ++ text ++ "`"
  | .invalidIdentifier kind name => "invalid identifier `" ++ name ++ "` in " ++ kind.word
  | .missingField kind field => "missing required field `" ++ field ++ "` in " ++ kind.word
  | .unknownWord title text => "unknown " ++ title ++ " value `" ++ text ++ "`"
  | .malformed kind flaw => "malformed " ++ kind.word ++ ": " ++ flaw.text
  | .invalidComponentName name => "invalid configuration component name `" ++ name ++ "`"
  | .duplicateComponentName name => "duplicate configuration component `" ++ name ++ "`"
  | .duplicatePortRole component role =>
    "component `" ++ component ++ "` declares port role `" ++ role ++ "` twice"
  | .invalidPin component role pin =>
    "component `" ++ component ++ "` assigns invalid pin `" ++ pin ++ "` to port role `" ++ role ++ "`"

/-- The value with this word, or the error that there is none. -/
def Vocabulary.read {α : Type} [Vocabulary α] (text : String) : Except DraftError α :=
  match Vocabulary.ofWord? text with
  | some value => .ok value
  | none => .error (.unknownWord (Vocabulary.title α) text)

end BlockSketch
