import BlockSketch.Program.Tree

/-!
The nodes of a program in tree order, each with what surrounds it. A node comes
before the nodes inside it, and those come in the order they are written: the
task with its declarations and their values, then the body; an arm's condition
before its list; the head of a repetition before its body.
-/
namespace BlockSketch

/-- A node of a program together with the names that are declared before it,
    and whether it stands inside a repetition. -/
structure Occurrence where
  node : Node
  scope : List Identifier
  inLoop : Bool

/-- The expression and all expressions inside it. -/
def Expr.parts : Expr → List Expr
  | expr@(.binary _ _ left right) => expr :: (left.parts ++ right.parts)
  | expr@(.unary _ _ operand) => expr :: operand.parts
  | expr => [expr]

/-- The expressions inside an expression, as occurrences. -/
def Expr.occurrences (scope : List Identifier) (inLoop : Bool) (expr : Expr) : List Occurrence :=
  expr.parts.map fun part => ⟨.expr part, scope, inLoop⟩

def LoopHead.occurrences (scope : List Identifier) (inLoop : Bool) (head : LoopHead) :
    List Occurrence :=
  head.expression?.elim [] (Expr.occurrences scope inLoop)

mutual

def Stmt.occurrences (scope : List Identifier) (inLoop : Bool) : Stmt → List Occurrence
  | stmt@(.light ..) => [⟨.stmt stmt, scope, inLoop⟩]
  | stmt@(.lightStatus ..) => [⟨.stmt stmt, scope, inLoop⟩]
  | stmt@(.tone _ _ frequency duration) =>
    ⟨.stmt stmt, scope, inLoop⟩ ::
      (frequency.occurrences scope inLoop ++ duration.occurrences scope inLoop)
  | stmt@(.motorOn _ _ power) => ⟨.stmt stmt, scope, inLoop⟩ :: power.occurrences scope inLoop
  | stmt@(.motorStop ..) => [⟨.stmt stmt, scope, inLoop⟩]
  | stmt@(.showText _ _ text) => ⟨.stmt stmt, scope, inLoop⟩ :: text.occurrences scope inLoop
  | stmt@(.serialWrite _ value) => ⟨.stmt stmt, scope, inLoop⟩ :: value.occurrences scope inLoop
  | .block body => body.occurrences scope inLoop
  | stmt@(.assign _ _ value) => ⟨.stmt stmt, scope, inLoop⟩ :: value.occurrences scope inLoop
  | stmt@(.branch _ branches) => ⟨.stmt stmt, scope, inLoop⟩ :: branches.occurrences scope inLoop
  | stmt@(.loop _ head body) =>
    ⟨.stmt stmt, scope, inLoop⟩ :: (head.occurrences scope inLoop ++ body.occurrences scope true)
  | stmt@(.flow ..) => [⟨.stmt stmt, scope, inLoop⟩]
  | stmt@(.wait _ time) => ⟨.stmt stmt, scope, inLoop⟩ :: time.occurrences scope inLoop

def Sequence.occurrences (scope : List Identifier) (inLoop : Bool) : Sequence → List Occurrence
  | body@(.mk _ statements) =>
    ⟨.stmt (.block body), scope, inLoop⟩ :: Stmt.listOccurrences scope inLoop statements

def Stmt.listOccurrences (scope : List Identifier) (inLoop : Bool) : List Stmt → List Occurrence
  | [] => []
  | stmt :: rest => stmt.occurrences scope inLoop ++ Stmt.listOccurrences scope inLoop rest

def Branches.occurrences (scope : List Identifier) (inLoop : Bool) : Branches → List Occurrence
  | .only condition body => condition.occurrences scope inLoop ++ body.occurrences scope inLoop
  | .orElse condition body otherwise =>
    condition.occurrences scope inLoop ++ body.occurrences scope inLoop ++
      otherwise.occurrences scope inLoop
  | .orIf condition body rest =>
    condition.occurrences scope inLoop ++ body.occurrences scope inLoop ++
      rest.occurrences scope inLoop

end

/-- Declarations and their values. A declaration sees the names of those before
    it only. -/
def Declaration.occurrences (scope : List Identifier) : List Declaration → List Occurrence
  | [] => []
  | declaration :: rest =>
    ⟨.declaration declaration, scope, false⟩ :: (declaration.value.occurrences scope false ++
      Declaration.occurrences (scope ++ [declaration.name]) rest)

namespace Program

/-- The names that the program declares. -/
def names (program : Program) : List Identifier :=
  program.task.declarations.map Declaration.name

/-- All nodes of the program in tree order. -/
def occurrences (program : Program) : List Occurrence :=
  ⟨.task program.task, [], false⟩ ::
    (Declaration.occurrences [] program.task.declarations ++
      program.body.occurrences program.names false)

end Program
end BlockSketch
