import BlockSketch.Proofs.Outcome
import BlockSketch.Sketch.Generate

/-!
The names that a sketch refers to are those of the nodes it is made from, in tree
order. Making code from a program is resolving these names one after the other: the
code is there if all of them resolve, and the first that does not gives the error
(`sequenceCode_names`, `initialCommands_names`).
-/
namespace BlockSketch

/-! ## Names in a program -/

/-- The port roles whose pins the code that reads a sensor needs. -/
def Sensor.roles : Sensor → List String
  | .key => ["PIN1"]
  | .ultrasonic => ["TRIG", "ECHO"]
  | .light => ["OUTPUT"]
  | .temperature => ["OUTPUT"]

/-- The names that the code of the expression itself refers to. -/
def Expr.names : Expr → List Sketch.Name
  | .var _ name _ => [.var name]
  | .sensor _ device port => device.roles.map (.pin port)
  | .timer _ clock => [.timer clock.number]
  | _ => []

/-- The names that the code of the statement itself refers to. -/
def Stmt.names : Stmt → List Sketch.Name
  | .tone _ port _ _ => ["+"].map (.pin port)
  | .motorOn _ port _ => ["IN1", "IN2"].map (.pin port)
  | .motorStop _ port => ["IN1", "IN2"].map (.pin port)
  | .showText _ port _ => [.display port]
  | .assign _ name _ => [.var name]
  | _ => []

/-- The names that the code of a node itself refers to, those of its children apart. -/
def Node.names : Node → List Sketch.Name
  | .expr part => part.names
  | .stmt part => part.names
  | .declaration part => [.var part.name]
  | .task _ => []

/-- The names that the code of nodes refers to, in the order of the nodes. -/
def Occurrence.names (occurrences : List Occurrence) : List Sketch.Name :=
  occurrences.flatMap fun occurrence => occurrence.node.names

@[simp] theorem Occurrence.names_nil : names [] = [] := rfl

@[simp] theorem Occurrence.names_cons (occurrence : Occurrence) (rest : List Occurrence) :
    names (occurrence :: rest) = occurrence.node.names ++ names rest := rfl

@[simp] theorem Occurrence.names_append (first rest : List Occurrence) :
    names (first ++ rest) = names first ++ names rest := by
  simp [names]

theorem Expr.names_occurrences (expr : Expr) (scope : List Identifier) (inLoop : Bool) :
    Occurrence.names (expr.occurrences scope inLoop) = expr.parts.flatMap Expr.names := by
  simp [Occurrence.names, Expr.occurrences, List.flatMap_map, Node.names]

namespace Sketch

/-! ## Names in a sketch -/

/-- The names that a term refers to. -/
def Term.names : Term → List Name
  | number _ => []
  | boolean _ => []
  | text _ => []
  | name referent => [referent]
  | binary _ left right => left.names ++ right.names
  | unary _ operand => operand.names
  | pressed pin => [pin]
  | distance trigger echo => [trigger, echo]
  | brightness pin => [pin]
  | temperature pin => [pin]
  | elapsed timer => [timer]

/-- The names that a command refers to. -/
def Command.names : Command → List Name
  | openSerial => []
  | startDisplay display => [display]
  | pinMode pin _ => [pin]
  | setLight _ _ => []
  | clearLight => []
  | resetLight => []
  | tone pin frequency duration => pin :: (frequency.names ++ duration.names)
  | drive forward backward power => forward :: backward :: power.names
  | halt forward backward => [forward, backward]
  | print display text => display :: text.names
  | send value => value.names
  | assign target value => target :: value.names
  | leave _ => []
  | pause time => time.names

/-- The names that the head of a loop refers to. The counter is not among them: the
    head declares it. -/
def Head.names : Head → List Name
  | forever => []
  | counted _ count => count.names
  | during condition => condition.names
  | till condition => condition.names

mutual

/-- The names that an instruction refers to. -/
def Instruction.names : Instruction → List Name
  | .command command => command.names
  | .choice choice => choice.names
  | .loop head body => head.names ++ Instruction.blockNames body

def Instruction.blockNames : List Instruction → List Name
  | [] => []
  | instruction :: rest => instruction.names ++ Instruction.blockNames rest

def Choice.names : Choice → List Name
  | .only condition body => condition.names ++ Instruction.blockNames body
  | .orElse condition body otherwise =>
    condition.names ++ Instruction.blockNames body ++ Instruction.blockNames otherwise
  | .orIf condition body rest => condition.names ++ Instruction.blockNames body ++ rest.names

end

theorem Instruction.blockNames_append (first rest : List Instruction) :
    blockNames (first ++ rest) = blockNames first ++ blockNames rest := by
  induction first with
  | nil => rfl
  | cons instruction first ih => simp [blockNames, ih]

/-! ## Resolving names -/

/-- The name itself, if the configuration gives what it stands for. -/
def Name.resolve (configuration : Configuration) : Name → Except SketchError Name
  | pin component role => resolvePin configuration component role
  | display component => resolveDisplay configuration component
  | name => .ok name

/-- The names, if all of them resolve, or the error of the first that does not. -/
def resolveAll (configuration : Configuration) (names : List Name) : Except SketchError (List Name) :=
  names.mapM (Name.resolve configuration)

variable {configuration : Configuration}

theorem Name.resolve_pin (component : Identifier) (role : String) :
    Name.resolve configuration (.pin component role) = resolvePin configuration component role := rfl

theorem Name.resolve_display (component : Identifier) :
    Name.resolve configuration (.display component) = resolveDisplay configuration component := rfl

theorem Name.resolve_var (name : Identifier) :
    Name.resolve configuration (.var name) = pure (.var name) := rfl

theorem resolveAll_nil : resolveAll configuration [] = pure [] := rfl

theorem resolveAll_cons (name : Name) (rest : List Name) :
    resolveAll configuration (name :: rest) = (do
      let name ← name.resolve configuration
      let rest ← resolveAll configuration rest
      return name :: rest) := by
  unfold resolveAll
  exact List.mapM_cons

theorem resolveAll_append (first rest : List Name) :
    resolveAll configuration (first ++ rest) = (do
      let first ← resolveAll configuration first
      let rest ← resolveAll configuration rest
      return first ++ rest) := by
  unfold resolveAll
  exact List.mapM_append

/-! ## Code and names -/

section
variable (configuration)
attribute [local simp] Name.resolve_pin Name.resolve_display Name.resolve_var resolveAll_nil
  resolveAll_cons resolveAll_append Term.names Command.names Head.names Instruction.names
  Instruction.blockNames Choice.names Node.names Stmt.names Expr.names_occurrences

theorem sensorTerm_names (port : Identifier) (device : Sensor) :
    Term.names <$> sensorTerm configuration port device =
      resolveAll configuration (device.roles.map (.pin port)) := by
  cases device <;> simp [sensorTerm, Sensor.roles]

theorem exprTerm_names (expr : Expr) :
    Term.names <$> exprTerm configuration expr =
      resolveAll configuration (expr.parts.flatMap Expr.names) := by
  induction expr with
  | binary label op left right ihLeft ihRight =>
    simp [exprTerm, Expr.parts, Expr.names, ← ihLeft, ← ihRight]
  | unary label op operand ih => simp [exprTerm, Expr.parts, Expr.names, ← ih]
  | sensor label device port => simp [exprTerm, Expr.parts, Expr.names, sensorTerm_names]
  | _ => rfl

theorem loopHead_names (scope : List Identifier) (inLoop : Bool) (index : Nat) (head : LoopHead) :
    Head.names <$> loopHead configuration index head =
      resolveAll configuration (Occurrence.names (head.occurrences scope inLoop)) := by
  cases head with
  | forever => rfl
  | _ => simp [loopHead, LoopHead.occurrences, LoopHead.expression?, ← exprTerm_names]

mutual

theorem stmtCode_names (scope : List Identifier) (inLoop : Bool) (index : Nat) : ∀ stmt : Stmt,
    Instruction.blockNames <$> stmtCode configuration index stmt =
      resolveAll configuration (Occurrence.names (stmt.occurrences scope inLoop))
  | .light _ _ _ => rfl
  | .lightStatus _ .off => rfl
  | .lightStatus _ .reset => rfl
  | .tone _ _ _ _ => by simp [stmtCode, Stmt.occurrences, ← exprTerm_names]
  | .motorOn _ _ _ => by simp [stmtCode, Stmt.occurrences, ← exprTerm_names]
  | .motorStop _ _ => by simp [stmtCode, Stmt.occurrences]
  | .showText _ _ _ => by simp [stmtCode, Stmt.occurrences, ← exprTerm_names]
  | .serialWrite _ _ => by simp [stmtCode, Stmt.occurrences, ← exprTerm_names]
  | .block body => sequenceCode_names scope inLoop index body
  | .assign _ _ _ => by simp [stmtCode, Stmt.occurrences, ← exprTerm_names]
  | .branch _ branches => by
    simp [stmtCode, Stmt.occurrences, ← branchCode_names scope inLoop index branches]
  | .loop _ head body => by
    simp [stmtCode, Stmt.occurrences, ← loopHead_names configuration scope inLoop index head,
      ← sequenceCode_names scope true (index + headLoops head) body]
  | .flow _ _ => rfl
  | .wait _ _ => by simp [stmtCode, Stmt.occurrences, ← exprTerm_names]

/-- The code of a list of statements refers to the names of its nodes in tree order, and
    it is there exactly if all of them resolve. -/
theorem sequenceCode_names (scope : List Identifier) (inLoop : Bool) (index : Nat) : ∀ body : Sequence,
    Instruction.blockNames <$> sequenceCode configuration index body =
      resolveAll configuration (Occurrence.names (body.occurrences scope inLoop))
  | .mk _ statements => by
    simpa [sequenceCode, Sequence.occurrences] using listCode_names scope inLoop index statements

theorem listCode_names (scope : List Identifier) (inLoop : Bool) (index : Nat) : ∀ statements : List Stmt,
    Instruction.blockNames <$> listCode configuration index statements =
      resolveAll configuration (Occurrence.names (Stmt.listOccurrences scope inLoop statements))
  | [] => rfl
  | stmt :: rest => by
    simp [listCode, Stmt.listOccurrences, ← stmtCode_names scope inLoop index stmt,
      ← listCode_names scope inLoop (index + stmtLoops stmt) rest, Instruction.blockNames_append]

theorem branchCode_names (scope : List Identifier) (inLoop : Bool) (index : Nat) : ∀ branches : Branches,
    Choice.names <$> branchCode configuration index branches =
      resolveAll configuration (Occurrence.names (branches.occurrences scope inLoop))
  | .only _ body => by
    simp [branchCode, Branches.occurrences, ← exprTerm_names, ← sequenceCode_names scope inLoop index body]
  | .orElse _ body otherwise => by
    simp [branchCode, Branches.occurrences, ← exprTerm_names, ← sequenceCode_names scope inLoop index body,
      ← sequenceCode_names scope inLoop (index + sequenceLoops body) otherwise]
  | .orIf _ body rest => by
    simp [branchCode, Branches.occurrences, ← exprTerm_names, ← sequenceCode_names scope inLoop index body,
      ← branchCode_names scope inLoop (index + sequenceLoops body) rest]

end

/-- The commands that give the variables their initial values refer to the variables
    and to the names of the values. -/
theorem initialCommands_names (scope : List Identifier) (declarations : List Declaration) :
    (fun commands => commands.flatMap Command.names) <$>
        declarations.mapM (initialCommand configuration) =
      resolveAll configuration (Occurrence.names (Declaration.occurrences scope declarations)) := by
  induction declarations generalizing scope with
  | nil => rfl
  | cons declaration rest ih =>
    simp [initialCommand, Declaration.occurrences, ← exprTerm_names,
      ← ih (scope ++ [declaration.name])]

end

/-! ## What it takes to resolve -/

theorem resolvePin_eq_ok_iff {component : Identifier} {role : String} {name : Name} :
    resolvePin configuration component role = .ok name ↔
      name = .pin component role ∧
        ∃ found pin, configuration.component? component.text = some found ∧ found.pin? role = some pin := by
  unfold resolvePin
  cases found : configuration.component? component.text with
  | none => simp
  | some device =>
    cases wired : device.pin? role with
    | none => simp [wired]
    | some pin => simp [wired, eq_comm]

theorem resolveDisplay_eq_ok_iff {component : Identifier} {name : Name} :
    resolveDisplay configuration component = .ok name ↔
      name = .display component ∧ ∃ found, configuration.component? component.text = some found := by
  unfold resolveDisplay
  cases found : configuration.component? component.text with
  | none => simp
  | some device => simp [eq_comm]

/-- A name that resolves resolves to itself. -/
theorem Name.eq_of_resolve {name found : Name} (resolved : name.resolve configuration = .ok found) :
    found = name := by
  cases name with
  | pin component role => exact (resolvePin_eq_ok_iff.mp resolved).1
  | display component => exact (resolveDisplay_eq_ok_iff.mp resolved).1
  | timer number => exact (Except.ok.inj resolved).symm
  | var name => exact (Except.ok.inj resolved).symm
  | counter index => exact (Except.ok.inj resolved).symm

/-- Names that are resolved together stay as they are, and each of them resolves. -/
theorem resolveAll_eq_ok_iff {names found : List Name} :
    resolveAll configuration names = .ok found ↔
      found = names ∧ ∀ name ∈ names, name.resolve configuration = .ok name := by
  induction names generalizing found with
  | nil => simp [resolveAll_nil, pure, Except.pure, eq_comm]
  | cons name rest ih =>
    rw [resolveAll_cons]
    constructor
    · intro together
      obtain ⟨known, resolved, tail⟩ := Outcome.bind_eq_ok_iff.mp together
      obtain ⟨others, later, joined⟩ := Outcome.bind_eq_ok_iff.mp tail
      obtain rfl := Name.eq_of_resolve resolved
      obtain ⟨rfl, each⟩ := ih.mp later
      exact ⟨(Except.ok.inj joined).symm, List.forall_mem_cons.mpr ⟨resolved, each⟩⟩
    · rintro ⟨rfl, all⟩
      obtain ⟨resolved, each⟩ := List.forall_mem_cons.mp all
      rw [resolved, ih.mpr ⟨rfl, each⟩]
      rfl

variable {α : Type} {made : Except SketchError α} {named : α → List Name} {names : List Name}

/-- What is made from names that resolve is there. -/
theorem exists_of_resolveAll (resolving : named <$> made = resolveAll configuration names)
    (all : ∀ name ∈ names, name.resolve configuration = .ok name) : ∃ value, made = .ok value := by
  rw [resolveAll_eq_ok_iff.mpr ⟨rfl, all⟩] at resolving
  cases made with
  | error error => cases resolving
  | ok value => exact ⟨value, rfl⟩

/-- What is made by resolving names refers to these names, and all of them resolve. -/
theorem names_of_resolveAll (resolving : named <$> made = resolveAll configuration names) {value : α}
    (done : made = .ok value) :
    named value = names ∧ ∀ name ∈ names, name.resolve configuration = .ok name := by
  rw [done] at resolving
  exact resolveAll_eq_ok_iff.mp resolving.symm

end Sketch
end BlockSketch
