import BlockSketch.Report

/-!
Collecting diagnostics as a visit: one node after the other, each before the nodes inside it,
with the diagnostics that were collected so far. `Program.diagnostics` lists the nodes of the
program first and then what is attached to them; a visit comes to the same, part by part and
then for the program (`Program.collect_eq`).
-/
namespace BlockSketch

/-- Adds what is attached to a node, one notice after the other. -/
def Node.record (findings : List Finding) (node : Node) (collected : List Diagnostic) : List Diagnostic :=
  (Finding.noticesAt findings (.block node.label.position)).foldl
    (fun collected notice => collected ++ [⟨node.origin, notice⟩]) collected

/-! ## The order of the visit -/

def Expr.collect (findings : List Finding) : Expr → List Diagnostic → List Diagnostic
  | expr@(.binary _ _ left right), collected =>
    right.collect findings (left.collect findings (Node.record findings (.expr expr) collected))
  | expr@(.unary _ _ operand), collected =>
    operand.collect findings (Node.record findings (.expr expr) collected)
  | expr, collected => Node.record findings (.expr expr) collected

def LoopHead.collect (findings : List Finding) (head : LoopHead) (collected : List Diagnostic) :
    List Diagnostic :=
  head.expression?.elim collected fun expr => expr.collect findings collected

mutual

def Stmt.collect (findings : List Finding) : Stmt → List Diagnostic → List Diagnostic
  | stmt@(.light ..), collected => Node.record findings (.stmt stmt) collected
  | stmt@(.lightStatus ..), collected => Node.record findings (.stmt stmt) collected
  | stmt@(.tone _ _ frequency duration), collected =>
    duration.collect findings (frequency.collect findings (Node.record findings (.stmt stmt) collected))
  | stmt@(.motorOn _ _ power), collected =>
    power.collect findings (Node.record findings (.stmt stmt) collected)
  | stmt@(.motorStop ..), collected => Node.record findings (.stmt stmt) collected
  | stmt@(.showText _ _ text), collected =>
    text.collect findings (Node.record findings (.stmt stmt) collected)
  | stmt@(.serialWrite _ value), collected =>
    value.collect findings (Node.record findings (.stmt stmt) collected)
  | .block body, collected => body.collect findings collected
  | stmt@(.assign _ _ value), collected =>
    value.collect findings (Node.record findings (.stmt stmt) collected)
  | stmt@(.branch _ branches), collected =>
    branches.collect findings (Node.record findings (.stmt stmt) collected)
  | stmt@(.loop _ head body), collected =>
    body.collect findings (head.collect findings (Node.record findings (.stmt stmt) collected))
  | stmt@(.flow ..), collected => Node.record findings (.stmt stmt) collected
  | stmt@(.wait _ time), collected =>
    time.collect findings (Node.record findings (.stmt stmt) collected)

def Sequence.collect (findings : List Finding) : Sequence → List Diagnostic → List Diagnostic
  | body@(.mk _ statements), collected =>
    Stmt.collectList findings statements (Node.record findings (.stmt (.block body)) collected)

def Stmt.collectList (findings : List Finding) : List Stmt → List Diagnostic → List Diagnostic
  | [], collected => collected
  | stmt :: rest, collected => Stmt.collectList findings rest (stmt.collect findings collected)

def Branches.collect (findings : List Finding) : Branches → List Diagnostic → List Diagnostic
  | .only condition body, collected => body.collect findings (condition.collect findings collected)
  | .orElse condition body otherwise, collected =>
    otherwise.collect findings (body.collect findings (condition.collect findings collected))
  | .orIf condition body rest, collected =>
    rest.collect findings (body.collect findings (condition.collect findings collected))

end

def Declaration.collect (findings : List Finding) (collected : List Diagnostic) (declaration : Declaration) :
    List Diagnostic :=
  declaration.value.collect findings (Node.record findings (.declaration declaration) collected)

/-- The task is visited with its variables, and then the body. -/
def Program.collect (program : Program) (findings : List Finding) : List Diagnostic :=
  program.body.collect findings
    (program.task.declarations.foldl (Declaration.collect findings)
      (Node.record findings (.task program.task) []))

/-! ## What is collected -/

section
variable {findings : List Finding} {scope : List Identifier} {inLoop : Bool}

/-- What is attached to these nodes. -/
def Occurrence.diagnostics (findings : List Finding) (occurrences : List Occurrence) : List Diagnostic :=
  occurrences.flatMap fun occurrence => occurrence.node.diagnostics findings

@[simp] theorem Occurrence.diagnostics_nil : diagnostics findings [] = [] := rfl

@[simp] theorem Occurrence.diagnostics_cons (node : Node) (rest : List Occurrence) :
    diagnostics findings (⟨node, scope, inLoop⟩ :: rest) =
      node.diagnostics findings ++ diagnostics findings rest := by
  simp [diagnostics]

@[simp] theorem Occurrence.diagnostics_append (first rest : List Occurrence) :
    diagnostics findings (first ++ rest) = diagnostics findings first ++ diagnostics findings rest := by
  simp [diagnostics]

@[simp] theorem Node.record_eq (node : Node) (collected : List Diagnostic) :
    node.record findings collected = collected ++ node.diagnostics findings := by
  rw [record, diagnostics]
  induction Finding.noticesAt findings (.block node.label.position) generalizing collected with
  | nil => simp
  | cons notice rest ih => rw [List.foldl_cons, ih, List.map_cons, List.append_assoc, List.singleton_append]

theorem Expr.collect_eq (scope : List Identifier) (inLoop : Bool) (expr : Expr) (collected : List Diagnostic) :
    expr.collect findings collected =
      collected ++ Occurrence.diagnostics findings (expr.occurrences scope inLoop) := by
  induction expr generalizing collected with
  | binary label op left right leftIh rightIh =>
    rw [collect, leftIh, rightIh]
    simp [occurrences, parts]
  | unary label op operand ih =>
    rw [collect, ih]
    simp [occurrences, parts]
  | _ => simp [collect, occurrences, parts]

theorem LoopHead.collect_eq (scope : List Identifier) (inLoop : Bool) (head : LoopHead)
    (collected : List Diagnostic) :
    head.collect findings collected =
      collected ++ Occurrence.diagnostics findings (head.occurrences scope inLoop) := by
  cases head with
  | forever => simp [collect, occurrences, expression?]
  | times count => exact count.collect_eq scope inLoop collected
  | during condition => exact condition.collect_eq scope inLoop collected
  | till condition => exact condition.collect_eq scope inLoop collected

mutual

theorem Stmt.collect_eq (scope : List Identifier) (inLoop : Bool) :
    ∀ (stmt : Stmt) (collected : List Diagnostic), stmt.collect findings collected =
      collected ++ Occurrence.diagnostics findings (stmt.occurrences scope inLoop)
  | .light .., _ => by simp [Stmt.collect, Stmt.occurrences]
  | .lightStatus .., _ => by simp [Stmt.collect, Stmt.occurrences]
  | .tone .., _ => by simp [Stmt.collect, Stmt.occurrences, Expr.collect_eq scope inLoop]
  | .motorOn .., _ => by simp [Stmt.collect, Stmt.occurrences, Expr.collect_eq scope inLoop]
  | .motorStop .., _ => by simp [Stmt.collect, Stmt.occurrences]
  | .showText .., _ => by simp [Stmt.collect, Stmt.occurrences, Expr.collect_eq scope inLoop]
  | .serialWrite .., _ => by simp [Stmt.collect, Stmt.occurrences, Expr.collect_eq scope inLoop]
  | .block body, collected => by
    rw [Stmt.collect, Stmt.occurrences]
    exact body.collect_eq scope inLoop collected
  | .assign .., _ => by simp [Stmt.collect, Stmt.occurrences, Expr.collect_eq scope inLoop]
  | .branch _ branches, _ => by simp [Stmt.collect, Stmt.occurrences, branches.collect_eq scope inLoop]
  | .loop _ head body, _ => by
    simp [Stmt.collect, Stmt.occurrences, head.collect_eq scope inLoop, body.collect_eq scope true]
  | .flow .., _ => by simp [Stmt.collect, Stmt.occurrences]
  | .wait .., _ => by simp [Stmt.collect, Stmt.occurrences, Expr.collect_eq scope inLoop]

theorem Sequence.collect_eq (scope : List Identifier) (inLoop : Bool) :
    ∀ (body : Sequence) (collected : List Diagnostic), body.collect findings collected =
      collected ++ Occurrence.diagnostics findings (body.occurrences scope inLoop)
  | .mk _ statements, _ => by simp [Sequence.collect, Sequence.occurrences, Stmt.collectList_eq scope inLoop statements]

theorem Stmt.collectList_eq (scope : List Identifier) (inLoop : Bool) :
    ∀ (statements : List Stmt) (collected : List Diagnostic), Stmt.collectList findings statements collected =
      collected ++ Occurrence.diagnostics findings (Stmt.listOccurrences scope inLoop statements)
  | [], _ => by simp [Stmt.collectList, Stmt.listOccurrences]
  | stmt :: rest, _ => by
    simp [Stmt.collectList, Stmt.listOccurrences, stmt.collect_eq scope inLoop, Stmt.collectList_eq scope inLoop rest]

theorem Branches.collect_eq (scope : List Identifier) (inLoop : Bool) :
    ∀ (branches : Branches) (collected : List Diagnostic), branches.collect findings collected =
      collected ++ Occurrence.diagnostics findings (branches.occurrences scope inLoop)
  | .only condition body, _ => by
    simp [Branches.collect, Branches.occurrences, condition.collect_eq scope inLoop, body.collect_eq scope inLoop]
  | .orElse condition body otherwise, _ => by
    simp [Branches.collect, Branches.occurrences, condition.collect_eq scope inLoop, body.collect_eq scope inLoop,
      otherwise.collect_eq scope inLoop]
  | .orIf condition body rest, _ => by
    simp [Branches.collect, Branches.occurrences, condition.collect_eq scope inLoop, body.collect_eq scope inLoop,
      rest.collect_eq scope inLoop]

end

theorem Declaration.collectAll_eq (scope : List Identifier) (declarations : List Declaration)
    (collected : List Diagnostic) :
    declarations.foldl (Declaration.collect findings) collected =
      collected ++ Occurrence.diagnostics findings (Declaration.occurrences scope declarations) := by
  induction declarations generalizing scope collected with
  | nil => simp [Declaration.occurrences]
  | cons declaration rest ih =>
    rw [List.foldl_cons, ih (scope ++ [declaration.name]), Declaration.collect,
      declaration.value.collect_eq scope false]
    simp [Declaration.occurrences]

/-- A visit of a program collects its diagnostics in their order. -/
theorem Program.collect_eq (program : Program) (findings : List Finding) :
    program.collect findings = program.diagnostics findings := by
  rw [Program.collect, Declaration.collectAll_eq [], program.body.collect_eq program.names false, Node.record_eq]
  change _ = Occurrence.diagnostics findings program.occurrences
  simp [Program.occurrences]

/-- A report lists what is attached to the components, and then what a visit of the program
    collects. -/
theorem Project.diagnostics_eq_collect (project : Project) :
    project.diagnostics =
      project.configuration.diagnostics project.findings ++ project.program.collect project.findings := by
  rw [Program.collect_eq]
  rfl

end

end BlockSketch
