import BlockSketch.Finding

/-!
Type errors: what is wrong, at which block, and the notice that says so.
-/
namespace BlockSketch.Typing

/-- The place in a program that asks for a value of a type. -/
inductive Slot
  | assignment (name : Identifier)
  | definition (name : Identifier)
  | use (name : Identifier)
  | condition
  | repeatCount
  | waitTime
  | toneFrequency
  | toneDuration
  | motorPower
deriving DecidableEq

def Slot.text : Slot → String
  | .assignment name => "in assignment to `" ++ name.text ++ "`"
  | .definition name => "in definition of `" ++ name.text ++ "`"
  | .use name => "in use of `" ++ name.text ++ "`"
  | .condition => "in condition"
  | .repeatCount => "in repeat count"
  | .waitTime => "in wait time"
  | .toneFrequency => "in tone frequency"
  | .toneDuration => "in tone duration"
  | .motorPower => "in motor power"

/-- What is wrong. -/
inductive Cause
  | mismatch (expected found : ValueType) (slot : Slot)
  | binaryOperands (op : BinaryOp) (left right : ValueType)
  | unaryOperand (op : UnaryOp) (found : ValueType)
deriving DecidableEq

/-- A type error at the node with this label. -/
structure Fault where
  label : Label
  cause : Cause
deriving DecidableEq

/-- The block as a message names it. -/
def blockText : Option String → String
  | some id => "block " ++ id
  | none => "unplaced block"

/-- What is wrong, in words. -/
def Cause.text : Cause → String
  | .mismatch expected found slot =>
    "type mismatch " ++ slot.text ++ ": expected `" ++ expected.word ++ "`, found `" ++ found.word ++ "`"
  | .binaryOperands op left right =>
    "operator `" ++ Vocabulary.word op ++ "` cannot be applied to `" ++ left.word ++ "` and `" ++
      right.word ++ "`"
  | .unaryOperand op found =>
    "unary operator `" ++ Vocabulary.word op ++ "` cannot be applied to `" ++ found.word ++ "`"

/-- What is wrong, as a notice. -/
def Cause.notice : Cause → Notice
  | .mismatch expected found slot =>
    .error .typeMismatch [("expected", expected.word), ("found", found.word), ("context", slot.text)]
  | .binaryOperands op left right =>
    .error .binaryOperands
      [("operator", Vocabulary.word op), ("left", left.word), ("right", right.word)]
  | .unaryOperand op found =>
    .error .unaryOperand [("operator", Vocabulary.word op), ("found", found.word)]

namespace Fault

/-- The error in one line. -/
def message (fault : Fault) : String :=
  blockText fault.label.blockId? ++ ": " ++ fault.cause.text

/-- The error as a finding. -/
def finding (fault : Fault) : Finding :=
  ⟨.block fault.label.position, fault.cause.notice⟩

end Fault
end BlockSketch.Typing
