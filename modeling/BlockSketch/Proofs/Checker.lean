import BlockSketch.Proofs.TypeRule

/-!
Type checking as a visit: one node after the other, with the variables that are declared so
far, the errors that were met, and what was attached to the nodes. An expression is judged by
its type, or by none if there is a mistake in it, and a statement is without type.

`Program.checkTypes` says of each expression what its type is and what is wrong with it, and
needs no state. A visit comes to the same: it judges an expression by the type that is
inferred, and adds the errors of what it has passed (`Expr.judge_eq`, `Stmt.judge_eq`), whatever
was met before; so it ends with the errors of the program (`Program.judge_checked`).
-/
namespace BlockSketch

namespace Typing

/-- What a visit says of a node: the type of a value, no type because it is a statement, or that
    the type is unknown because of a mistake. -/
inductive Judgement
  | value (type : ValueType)
  | void
  | unknown
deriving DecidableEq

/-- What there is to say of an expression with this type, or with none. -/
def Judgement.ofType? : Option ValueType → Judgement
  | some type => value type
  | none => unknown

theorem Judgement.ofType?_eq_value_iff {type? : Option ValueType} {type : ValueType} :
    ofType? type? = value type ↔ type? = some type := by
  cases type? <;> simp [ofType?]

theorem Judgement.ofType?_eq_unknown_iff {type? : Option ValueType} :
    ofType? type? = unknown ↔ type? = none := by
  cases type? <;> simp [ofType?]

theorem Judgement.ofType?_ne_void (type? : Option ValueType) : ofType? type? ≠ void := by
  cases type? <;> simp [ofType?]

/-- What is known in the middle of a visit. -/
structure Checker where
  env : Env := []
  faults : List Fault := []
  findings : List Finding := []

namespace Checker

/-- Attaches an error to its node and records it. -/
def report (checker : Checker) (fault : Fault) : Checker :=
  { checker with
    faults := checker.faults ++ [fault]
    findings := checker.findings ++ [fault.finding] }

/-- A name that is declared again keeps its type. -/
def declare (checker : Checker) (name : Identifier) (type : ValueType) : Checker :=
  if (checker.env.type? name).isSome then checker
  else { checker with env := checker.env ++ [(name, type)] }

/-- Judges an operation by its operands. Where one of them is unknown, so is the operation, and
    there is nothing to report. -/
def judgeBinary (checker : Checker) (label : Label) (op : BinaryOp) :
    Judgement → Judgement → Judgement × Checker
  | .value left, .value right =>
    match binaryType? op left right with
    | some type => (.value type, checker)
    | none => (.unknown, checker.report ⟨label, .binaryOperands op left right⟩)
  | _, _ => (.unknown, checker)

def judgeUnary (checker : Checker) (label : Label) (op : UnaryOp) : Judgement → Judgement × Checker
  | .value found =>
    if found = unaryType op then (.value (unaryType op), checker)
    else (.unknown, checker.report ⟨label, .unaryOperand op found⟩)
  | _ => (.unknown, checker)

/-- Reports a value of another type than the expected one at a node. -/
def require (checker : Checker) (label : Label) (expected : ValueType) (slot : Slot) : Judgement → Checker
  | .value found =>
    if found = expected then checker else checker.report ⟨label, .mismatch expected found slot⟩
  | _ => checker

end Checker
end Typing

open Typing

/-! ## The order of the visit -/

def Expr.judge : Expr → Checker → Judgement × Checker
  | .number .., checker => (.value .number, checker)
  | .boolean .., checker => (.value .boolean, checker)
  | .text .., checker => (.value .string, checker)
  | .var label name type, checker =>
    match checker.env.type? name with
    | none => (.value type, checker)
    | some declared =>
      if declared = type then (.value declared, checker)
      else (.unknown, checker.report ⟨label, .mismatch declared type (.use name)⟩)
  | .binary label op left right, checker =>
    let (first, checker) := left.judge checker
    let (second, checker) := right.judge checker
    checker.judgeBinary label op first second
  | .unary label op operand, checker =>
    let (found, checker) := operand.judge checker
    checker.judgeUnary label op found
  | .sensor _ device _, checker => (.value device.type, checker)
  | .timer .., checker => (.value .number, checker)

/-- Judges a value and reports it if it has another type than the expected one. -/
def Typing.Checker.expect (checker : Checker) (value : Expr) (expected : ValueType) (slot : Slot) : Checker :=
  let (found, checker) := value.judge checker
  checker.require value.label expected slot found

def LoopHead.judge : LoopHead → Checker → Checker
  | .forever, checker => checker
  | .times count, checker => checker.expect count .number .repeatCount
  | .during condition, checker => checker.expect condition .boolean .condition
  | .till condition, checker => checker.expect condition .boolean .condition

mutual

def Stmt.judge : Stmt → Checker → Judgement × Checker
  | .light .., checker => (.void, checker)
  | .lightStatus .., checker => (.void, checker)
  | .tone _ _ frequency duration, checker =>
    (.void, (checker.expect frequency .number .toneFrequency).expect duration .number .toneDuration)
  | .motorOn _ _ power, checker => (.void, checker.expect power .number .motorPower)
  | .motorStop .., checker => (.void, checker)
  | .showText _ _ text, checker => (.void, (text.judge checker).2)
  | .serialWrite _ value, checker => (.void, (value.judge checker).2)
  | .block body, checker => body.judge checker
  | .assign _ name value, checker =>
    match checker.env.type? name with
    | some expected => (.void, checker.expect value expected (.assignment name))
    | none => (.void, (value.judge checker).2)
  | .branch _ branches, checker => (.void, branches.judge checker)
  | .loop _ head body, checker => (.void, (body.judge (head.judge checker)).2)
  | .flow .., checker => (.void, checker)
  | .wait _ time, checker => (.void, checker.expect time .number .waitTime)

def Sequence.judge : Sequence → Checker → Judgement × Checker
  | .mk _ statements, checker => (.void, Stmt.judgeList statements checker)

def Stmt.judgeList : List Stmt → Checker → Checker
  | [], checker => checker
  | stmt :: rest, checker => Stmt.judgeList rest (stmt.judge checker).2

def Branches.judge : Branches → Checker → Checker
  | .only condition body, checker => (body.judge (checker.expect condition .boolean .condition)).2
  | .orElse condition body otherwise, checker =>
    (otherwise.judge (body.judge (checker.expect condition .boolean .condition)).2).2
  | .orIf condition body rest, checker =>
    rest.judge (body.judge (checker.expect condition .boolean .condition)).2

end

/-- The initial value is judged before the name is declared. -/
def Declaration.judge (checker : Checker) (declaration : Declaration) : Checker :=
  let (found, checker) := declaration.value.judge checker
  (checker.require declaration.label declaration.type (.definition declaration.name) found).declare
    declaration.name declaration.type

/-- The variables are visited before the body. -/
def Program.judge (program : Program) (start : Checker) : Checker :=
  (program.body.judge (program.task.declarations.foldl Declaration.judge start)).2

/-! ## What a visit adds -/

namespace Typing

theorem Env.type?_append (env others : Env) (name : Identifier) :
    Env.type? (env ++ others) name = (env.type? name).or (others.type? name) := by
  rw [Env.type?, List.find?_append, Option.map_or]
  rfl

namespace Checker
variable {checker before between after : Checker} {env : Env}

/-- Errors are recorded and attached in their order. -/
def add (checker : Checker) (found : List Fault) : Checker :=
  { checker with
    faults := checker.faults ++ found
    findings := checker.findings ++ found.map Fault.finding }

@[simp] theorem add_nil (checker : Checker) : checker.add [] = checker := by
  simp [add]

@[simp] theorem add_add (checker : Checker) (found more : List Fault) :
    (checker.add found).add more = checker.add (found ++ more) := by
  simp [add]

theorem report_eq (checker : Checker) (fault : Fault) : checker.report fault = checker.add [fault] := rfl

/-- The variables have the types that the declarations say. -/
def Knows (checker : Checker) (env : Env) : Prop :=
  ∀ name, checker.env.type? name = env.type? name

theorem Knows.add (knows : checker.Knows env) (found : List Fault) : (checker.add found).Knows env := knows

theorem declare_faults (checker : Checker) (name : Identifier) (type : ValueType) :
    (checker.declare name type).faults = checker.faults := by
  unfold declare
  split <;> rfl

theorem declare_findings (checker : Checker) (name : Identifier) (type : ValueType) :
    (checker.declare name type).findings = checker.findings := by
  unfold declare
  split <;> rfl

theorem Knows.declare (knows : checker.Knows env) (name : Identifier) (type : ValueType) :
    (checker.declare name type).Knows (env ++ [(name, type)]) := by
  intro other
  rw [Env.type?_append, ← knows other]
  unfold Checker.declare
  split
  · next known =>
    by_cases same : name = other
    · obtain ⟨first, found⟩ := Option.isSome_iff_exists.mp known
      rw [← same, found, Option.some_or]
    · have nothing : Env.type? [(name, type)] other = none := by simp [Env.type?, same]
      rw [nothing, Option.or_none]
  · exact Env.type?_append ..

/-! ## Expressions -/

theorem judgeBinary_eq (checker : Checker) (label : Label) (op : BinaryOp) (left right : Expr) :
    checker.judgeBinary label op (.ofType? (infer? env left)) (.ofType? (infer? env right)) =
      (.ofType? (infer? env (.binary label op left right)),
        checker.add (ownFault? env (.binary label op left right)).toList) := by
  simp only [infer?, ownFault?]
  cases infer? env left with
  | none => simp [Judgement.ofType?, judgeBinary]
  | some leftType =>
    cases infer? env right with
    | none => simp [Judgement.ofType?, judgeBinary]
    | some rightType =>
      cases typed : binaryType? op leftType rightType <;>
        simp [Judgement.ofType?, judgeBinary, typed, report_eq]

theorem judgeUnary_eq (checker : Checker) (label : Label) (op : UnaryOp) (operand : Expr) :
    checker.judgeUnary label op (.ofType? (infer? env operand)) =
      (.ofType? (infer? env (.unary label op operand)),
        checker.add (ownFault? env (.unary label op operand)).toList) := by
  simp only [infer?, ownFault?]
  cases infer? env operand with
  | none => simp [Judgement.ofType?, judgeUnary]
  | some found =>
    by_cases fits : found = unaryType op <;>
      simp [Judgement.ofType?, judgeUnary, Option.filter, fits, report_eq]

theorem judge_var (knows : checker.Knows env) (label : Label) (name : Identifier) (type : ValueType) :
    (Expr.var label name type).judge checker =
      (.ofType? (infer? env (.var label name type)),
        checker.add (ownFault? env (.var label name type)).toList) := by
  simp only [Expr.judge, infer?, ownFault?, knows name]
  cases env.type? name with
  | none => simp [Judgement.ofType?]
  | some declared =>
    by_cases same : declared = type <;> simp [Judgement.ofType?, same, report_eq]

theorem require_eq (checker : Checker) (label : Label) (value : Expr) (expected : ValueType) (slot : Slot) :
    checker.require label expected slot (.ofType? (infer? env value)) =
      checker.add (slotFault? env label value expected slot).toList := by
  unfold slotFault?
  cases infer? env value with
  | none => simp [Judgement.ofType?, require]
  | some found =>
    by_cases same : found = expected <;> simp [Judgement.ofType?, require, same, report_eq]

end Checker
end Typing

open Typing.Checker

section
variable {checker : Checker} {env : Env}

/-- An expression is judged by the type that is inferred, and its errors are added. -/
theorem Expr.judge_eq (expr : Expr) (knows : checker.Knows env) :
    expr.judge checker = (.ofType? (infer? env expr), checker.add (Typing.faults env expr)) := by
  induction expr generalizing checker with
  | var label name type => exact judge_var knows label name type
  | binary label op left right leftIh rightIh =>
    simp only [Expr.judge, leftIh knows, rightIh (knows.add _), judgeBinary_eq, Typing.faults, add_add]
  | unary label op operand ih =>
    simp only [Expr.judge, ih knows, judgeUnary_eq, Typing.faults, add_add]
  | _ => simp [Expr.judge, infer?, Typing.faults, ownFault?, Judgement.ofType?]

theorem Typing.Checker.expect_eq (knows : checker.Knows env) (value : Expr) (expected : ValueType) (slot : Slot) :
    checker.expect value expected slot = checker.add (slotFaults env value expected slot) := by
  simp only [expect, value.judge_eq knows, require_eq, add_add, slotFaults]

theorem LoopHead.judge_eq (head : LoopHead) (knows : checker.Knows env) :
    head.judge checker = checker.add (headFaults env head) := by
  cases head with
  | forever => exact (add_nil checker).symm
  | times count => exact expect_eq knows ..
  | during condition => exact expect_eq knows ..
  | till condition => exact expect_eq knows ..

/-! ## Statements -/

theorem Stmt.judge_assign (knows : checker.Knows env) (label : Label) (name : Identifier) (value : Expr) :
    (Stmt.assign label name value).judge checker = (.void, checker.add (assignFaults env name value)) := by
  simp only [Stmt.judge, assignFaults, knows name]
  cases env.type? name with
  | none => simp only [value.judge_eq knows]
  | some expected => simp only [expect_eq knows]

mutual

/-- A statement has no type, and its errors are added. -/
theorem Stmt.judge_eq : ∀ (stmt : Stmt) {checker : Checker}, checker.Knows env →
    stmt.judge checker = (.void, checker.add (stmtFaults env stmt))
  | .light .., checker, _ => by simp [Stmt.judge, stmtFaults]
  | .lightStatus .., checker, _ => by simp [Stmt.judge, stmtFaults]
  | .tone .., checker, knows => by
    simp only [Stmt.judge, stmtFaults, expect_eq knows, expect_eq (knows.add _), add_add]
  | .motorOn .., checker, knows => by simp only [Stmt.judge, stmtFaults, expect_eq knows]
  | .motorStop .., checker, _ => by simp [Stmt.judge, stmtFaults]
  | .showText _ _ text, checker, knows => by simp only [Stmt.judge, stmtFaults, text.judge_eq knows]
  | .serialWrite _ value, checker, knows => by simp only [Stmt.judge, stmtFaults, value.judge_eq knows]
  | .block body, checker, knows => by simp only [Stmt.judge, stmtFaults, body.judge_eq knows]
  | .assign label name value, checker, knows => by
    rw [stmtFaults]
    exact Stmt.judge_assign knows label name value
  | .branch _ branches, checker, knows => by simp only [Stmt.judge, stmtFaults, branches.judge_eq knows]
  | .loop _ head body, checker, knows => by
    simp only [Stmt.judge, stmtFaults, head.judge_eq knows, body.judge_eq (knows.add _), add_add]
  | .flow .., checker, _ => by simp [Stmt.judge, stmtFaults]
  | .wait .., checker, knows => by simp only [Stmt.judge, stmtFaults, expect_eq knows]

theorem Sequence.judge_eq : ∀ (body : Sequence) {checker : Checker}, checker.Knows env →
    body.judge checker = (.void, checker.add (sequenceFaults env body))
  | .mk _ statements, checker, knows => by
    simp only [Sequence.judge, sequenceFaults, Stmt.judgeList_eq statements knows]

theorem Stmt.judgeList_eq : ∀ (statements : List Stmt) {checker : Checker}, checker.Knows env →
    Stmt.judgeList statements checker = checker.add (listFaults env statements)
  | [], checker, _ => by simp [Stmt.judgeList, listFaults]
  | stmt :: rest, checker, knows => by
    simp only [Stmt.judgeList, listFaults, stmt.judge_eq knows, Stmt.judgeList_eq rest (knows.add _), add_add]

theorem Branches.judge_eq : ∀ (branches : Branches) {checker : Checker}, checker.Knows env →
    branches.judge checker = checker.add (branchFaults env branches)
  | .only _ body, checker, knows => by
    simp only [Branches.judge, branchFaults, expect_eq knows, body.judge_eq (knows.add _), add_add]
  | .orElse _ body otherwise, checker, knows => by
    simp only [Branches.judge, branchFaults, expect_eq knows, body.judge_eq (knows.add _), add_add,
      otherwise.judge_eq (knows.add _)]
  | .orIf _ body rest, checker, knows => by
    simp only [Branches.judge, branchFaults, expect_eq knows, body.judge_eq (knows.add _), add_add,
      rest.judge_eq (knows.add _)]

end

/-! ## Programs -/

/-- A visit has met these errors, and knows these variables at its end. -/
structure Typing.Checker.Checked (env : Env) (found : List Fault) (before after : Checker) : Prop where
  knows : after.Knows env
  faults : after.faults = before.faults ++ found
  findings : after.findings = before.findings ++ found.map Fault.finding

theorem Declaration.judge_checked (declaration : Declaration) (knows : checker.Knows env) :
    Checked (env ++ [entry declaration]) (declarationFaults env declaration) checker
      (Declaration.judge checker declaration) := by
  have judged : Declaration.judge checker declaration =
      (checker.add (declarationFaults env declaration)).declare declaration.name declaration.type := by
    simp only [Declaration.judge, declaration.value.judge_eq knows, require_eq, add_add, declarationFaults]
  rw [judged]
  exact ⟨(knows.add _).declare _ _, declare_faults .., declare_findings ..⟩

theorem Declaration.judgeAll_checked (declarations : List Declaration) (knows : checker.Knows env) :
    Checked (env ++ declarations.map entry) (taskFaults env declarations) checker
      (declarations.foldl Declaration.judge checker) := by
  induction declarations generalizing checker env with
  | nil => exact ⟨by simpa using knows, by simp [taskFaults], by simp [taskFaults]⟩
  | cons declaration rest ih =>
    have first := declaration.judge_checked knows
    have later := ih first.knows
    rw [List.append_assoc] at later
    exact ⟨later.knows, by rw [List.foldl_cons, later.faults, first.faults, taskFaults, List.append_assoc],
      by rw [List.foldl_cons, later.findings, first.findings, taskFaults, List.map_append, List.append_assoc]⟩

/-- A visit of a program meets its type errors, in their order. -/
theorem Program.judge_checked (program : Program) (findings : List Finding) :
    Checked program.checkTypes.env program.checkTypes.faults { findings } (program.judge { findings }) := by
  have nothing : Knows { findings } [] := fun _ => rfl
  have declared := Declaration.judgeAll_checked program.task.declarations nothing
  rw [List.nil_append] at declared
  rw [Program.judge, program.body.judge_eq declared.knows]
  refine ⟨declared.knows.add _, ?_, ?_⟩
  · simp only [Checker.add, declared.faults, Program.checkTypes, List.append_assoc]
  · simp only [Checker.add, declared.findings, Program.checkTypes, List.map_append, List.append_assoc]

end

end BlockSketch
