import BlockSketch.Proofs.Reference

/-!
Expressions without their labels. The outline of an expression keeps its operators,
operands, values, names and timers, and forgets labels and the types of variables.

The term of an expression is settled by the expression alone: a configuration decides
whether there is a term, not which.
-/
namespace BlockSketch

/-! ## Outlines -/

/-- What an expression says, apart from labels and the types of variables. -/
inductive Outline
  | number (text : String)
  | boolean (value : Bool)
  | text (value : String)
  | var (name : String)
  | binary (op : BinaryOp) (left right : Outline)
  | unary (op : UnaryOp) (operand : Outline)
  | sensor (device : Sensor) (port : String)
  | timer (number : Nat)
deriving DecidableEq, Repr

def Expr.outline : Expr → Outline
  | number _ literal => .number literal.text
  | boolean _ value => .boolean value
  | text _ value => .text value
  | var _ name _ => .var name.text
  | binary _ op left right => .binary op left.outline right.outline
  | unary _ op operand => .unary op operand.outline
  | sensor _ device port => .sensor device port.text
  | timer _ clock => .timer clock.number.toNat

/-! ## Terms -/

namespace Sketch

/-- The term that reads a sensor, if the pins are there. -/
def portTerm (port : Identifier) : Sensor → Term
  | .key => .pressed (.pin port "PIN1")
  | .ultrasonic => .distance (.pin port "TRIG") (.pin port "ECHO")
  | .light => .brightness (.pin port "OUTPUT")
  | .temperature => .temperature (.pin port "OUTPUT")

/-- The term of an expression, if all pins are there. -/
def plainTerm : Expr → Term
  | .number _ literal => .number literal
  | .boolean _ value => .boolean value
  | .text _ value => .text value
  | .var _ name _ => .name (.var name)
  | .binary _ op left right => .binary op (plainTerm left) (plainTerm right)
  | .unary _ op operand => .unary op (plainTerm operand)
  | .sensor _ device port => portTerm port device
  | .timer _ clock => .elapsed (.timer clock.number)

variable {configuration : Configuration}

theorem eq_portTerm_of_sensorTerm {port : Identifier} {device : Sensor} {term : Term}
    (generated : sensorTerm configuration port device = .ok term) : term = portTerm port device := by
  cases device with
  | ultrasonic =>
    obtain ⟨trigger, first, generated⟩ := Outcome.bind_eq_ok_iff.mp generated
    obtain ⟨echo, second, generated⟩ := Outcome.bind_eq_ok_iff.mp generated
    rw [(resolvePin_eq_ok_iff.mp first).1, (resolvePin_eq_ok_iff.mp second).1] at generated
    exact (Except.ok.inj generated).symm
  | key | light | temperature =>
    obtain ⟨pin, resolved, generated⟩ := Outcome.bind_eq_ok_iff.mp generated
    rw [(resolvePin_eq_ok_iff.mp resolved).1] at generated
    exact (Except.ok.inj generated).symm

/-- The configuration decides whether there is a term, but not which. -/
theorem eq_plainTerm_of_exprTerm {expr : Expr} {term : Term}
    (generated : exprTerm configuration expr = .ok term) : term = plainTerm expr := by
  induction expr generalizing term with
  | binary label op left right ihLeft ihRight =>
    obtain ⟨first, left, generated⟩ := Outcome.bind_eq_ok_iff.mp generated
    obtain ⟨second, right, generated⟩ := Outcome.bind_eq_ok_iff.mp generated
    rw [ihLeft left, ihRight right] at generated
    exact (Except.ok.inj generated).symm
  | unary label op operand ih =>
    obtain ⟨inner, operand, generated⟩ := Outcome.bind_eq_ok_iff.mp generated
    rw [ih operand] at generated
    exact (Except.ok.inj generated).symm
  | sensor label device port => exact eq_portTerm_of_sensorTerm generated
  | number | boolean | text | var | timer => exact (Except.ok.inj generated).symm

end Sketch
end BlockSketch
