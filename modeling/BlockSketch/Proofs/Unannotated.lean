import BlockSketch.Project.Workflow
import BlockSketch.Proofs.Erasure

/-!
What programs and configurations come to without their annotations. Nodes are the same and in
the same order, so validation, the use of hardware and the check of the pins give what they
give with annotations. Type errors keep their cause and position, and the sketch is the same.
-/
namespace BlockSketch

/-! ## Occurrences -/

@[simp] theorem Expr.label_bare (expr : Expr) : expr.bare.label = expr.label.bare := by
  cases expr <;> rfl

@[simp] theorem Stmt.label_bare (stmt : Stmt) : stmt.bare.label = stmt.label.bare := by
  cases stmt with
  | block body => cases body; rfl
  | _ => rfl

@[simp] theorem Node.label_bare (node : Node) : node.bare.label = node.label.bare := by
  cases node <;> simp [bare, label, Declaration.bare]

/-- The occurrence of the node without annotations. -/
def Occurrence.bare (occurrence : Occurrence) : Occurrence :=
  { occurrence with node := occurrence.node.bare }

theorem Expr.parts_bare (expr : Expr) : expr.bare.parts = expr.parts.map bare := by
  induction expr with
  | binary label op left right ihLeft ihRight => simp [bare, parts, ihLeft, ihRight]
  | unary label op operand ih => simp [bare, parts, ih]
  | _ => rfl

section Occurrences
variable (scope : List Identifier) (inLoop : Bool)

theorem Expr.occurrences_bare (expr : Expr) :
    expr.bare.occurrences scope inLoop = (expr.occurrences scope inLoop).map Occurrence.bare := by
  simp only [occurrences, parts_bare, List.map_map]
  rfl

theorem LoopHead.occurrences_bare (head : LoopHead) :
    head.bare.occurrences scope inLoop = (head.occurrences scope inLoop).map Occurrence.bare := by
  cases head with
  | forever => rfl
  | _ expr => exact expr.occurrences_bare scope inLoop

mutual

theorem Stmt.occurrences_bare (inLoop : Bool) : ∀ stmt : Stmt,
    stmt.bare.occurrences scope inLoop = (stmt.occurrences scope inLoop).map Occurrence.bare
  | .light .. | .lightStatus .. | .motorStop .. | .flow .. => rfl
  | .tone _ _ frequency duration => by
    simp only [Stmt.bare, Stmt.occurrences, Expr.occurrences_bare, List.map_cons, List.map_append]
    rfl
  | .motorOn _ _ expr | .showText _ _ expr | .serialWrite _ expr | .assign _ _ expr | .wait _ expr => by
    simp only [Stmt.bare, Stmt.occurrences, Expr.occurrences_bare, List.map_cons]
    rfl
  | .block body => body.occurrences_bare inLoop
  | .branch _ branches => by
    simp only [Stmt.bare, Stmt.occurrences, branches.occurrences_bare inLoop, List.map_cons]
    rfl
  | .loop _ head body => by
    simp only [Stmt.bare, Stmt.occurrences, head.occurrences_bare scope inLoop, body.occurrences_bare true,
      List.map_cons, List.map_append]
    rfl

theorem Sequence.occurrences_bare (inLoop : Bool) : ∀ body : Sequence,
    body.bare.occurrences scope inLoop = (body.occurrences scope inLoop).map Occurrence.bare
  | .mk _ statements => by
    simp only [Sequence.bare, Sequence.occurrences, Stmt.listOccurrences_bare inLoop statements,
      List.map_cons]
    rfl

theorem Stmt.listOccurrences_bare (inLoop : Bool) : ∀ statements : List Stmt,
    Stmt.listOccurrences scope inLoop (Stmt.bareList statements) =
      (Stmt.listOccurrences scope inLoop statements).map Occurrence.bare
  | [] => rfl
  | stmt :: rest => by
    simp only [Stmt.bareList, Stmt.listOccurrences, stmt.occurrences_bare inLoop,
      Stmt.listOccurrences_bare inLoop rest, List.map_append]

theorem Branches.occurrences_bare (inLoop : Bool) : ∀ branches : Branches,
    branches.bare.occurrences scope inLoop = (branches.occurrences scope inLoop).map Occurrence.bare
  | .only condition body => by
    simp only [Branches.bare, Branches.occurrences, condition.occurrences_bare scope inLoop,
      body.occurrences_bare inLoop, List.map_append]
  | .orElse condition body otherwise => by
    simp only [Branches.bare, Branches.occurrences, condition.occurrences_bare scope inLoop,
      body.occurrences_bare inLoop, otherwise.occurrences_bare inLoop, List.map_append]
  | .orIf condition body rest => by
    simp only [Branches.bare, Branches.occurrences, condition.occurrences_bare scope inLoop,
      body.occurrences_bare inLoop, rest.occurrences_bare inLoop, List.map_append]

end

theorem Declaration.occurrences_bare (declarations : List Declaration) :
    Declaration.occurrences scope (declarations.map bare) =
      (Declaration.occurrences scope declarations).map Occurrence.bare := by
  induction declarations generalizing scope with
  | nil => rfl
  | cons declaration rest ih =>
    simp only [List.map_cons, occurrences, List.map_append, ← ih, ← Expr.occurrences_bare]
    rfl

end Occurrences

theorem Program.names_bare (program : Program) : program.bare.names = program.names := by
  simp only [names, bare, List.map_map]
  rfl

theorem Program.occurrences_bare (program : Program) :
    program.bare.occurrences = program.occurrences.map Occurrence.bare := by
  simp only [occurrences, names_bare, List.map_cons, List.map_append]
  rw [← Declaration.occurrences_bare, ← Sequence.occurrences_bare]
  rfl

/-! ## Validation -/

theorem Expr.constant?_bare (expr : Expr) : expr.bare.constant? = expr.constant? := by
  induction expr with
  | unary label op operand ih => cases op <;> simp [bare, constant?, ih]
  | _ => rfl

namespace Node

theorem componentUse?_bare (node : Node) : node.bare.componentUse? = node.componentUse? := by
  cases node with
  | expr expr => cases expr <;> rfl
  | stmt stmt => cases stmt <;> rfl
  | _ => rfl

theorem timer?_bare (node : Node) : node.bare.timer? = node.timer? := by
  cases node with
  | expr expr => cases expr <;> rfl
  | _ => rfl

theorem usesSerial_bare (node : Node) : node.bare.usesSerial = node.usesSerial := by
  cases node with
  | stmt stmt => cases stmt <;> rfl
  | _ => rfl

theorem usesBrickLight_bare (node : Node) : node.bare.usesBrickLight = node.usesBrickLight := by
  cases node with
  | stmt stmt => cases stmt <;> rfl
  | _ => rfl

end Node

theorem Configuration.component?_bare (configuration : Configuration) (name : String) :
    configuration.bare.component? name = (configuration.component? name).map Component.bare := by
  simp only [Roster.component?, index_bare, components_bare, List.getElem?_map, Option.map_bind,
    Function.comp_def]

theorem ComponentUse.wired_bare (use : ComponentUse) (configuration : Configuration) :
    use.wired configuration.bare = use.wired configuration := by
  unfold wired
  rw [configuration.component?_bare]
  cases configuration.component? use.name.text <;> rfl

theorem ComponentUse.isWired_bare (use : ComponentUse) (configuration : Option Configuration) :
    use.isWired (configuration.map Configuration.bare) = use.isWired configuration := by
  cases configuration with
  | none => rfl
  | some configuration => simp only [Option.map_some, isWired, wired_bare]

namespace Validation

theorem hardwareNotices_bare (configuration : Option Configuration) (node : Node) :
    hardwareNotices (configuration.map Configuration.bare) node.bare =
      hardwareNotices configuration node := by
  unfold hardwareNotices
  rw [node.componentUse?_bare]
  cases configuration with
  | none => rfl
  | some configuration =>
    cases node.componentUse? with
    | none => rfl
    | some use => simp only [Option.map_some, componentNotices, use.wired_bare]

theorem programNotices_bare (occurrence : Occurrence) :
    programNotices occurrence.bare = programNotices occurrence := by
  obtain ⟨node, scope, inLoop⟩ := occurrence
  cases node with
  | expr expr => cases expr <;> rfl
  | stmt stmt =>
    cases stmt with
    | motorOn label port power =>
      simp only [programNotices, Occurrence.bare, Node.bare, Stmt.bare, powerNotices, power.constant?_bare]
    | _ => rfl
  | _ => rfl

theorem nodeFindings_bare (configuration : Option Configuration) (occurrence : Occurrence) :
    nodeFindings (configuration.map Configuration.bare) occurrence.bare =
      nodeFindings configuration occurrence := by
  have hardware := hardwareNotices_bare configuration occurrence.node
  simp only [nodeFindings, notices, programNotices_bare]
  simp only [Occurrence.bare, hardware, Node.label_bare, Label.bare]

end Validation

theorem Program.validate_bare (program : Program) (configuration : Option Configuration) :
    program.bare.validate (configuration.map Configuration.bare) = program.validate configuration := by
  simp only [validate, occurrences_bare, List.flatMap_map, Validation.nodeFindings_bare]

theorem Program.usedHardware_bare (program : Program) (configuration : Option Configuration) :
    program.bare.usedHardware (configuration.map Configuration.bare) =
      program.usedHardware configuration := by
  have nodes : program.bare.occurrences.map Occurrence.node =
      (program.occurrences.map Occurrence.node).map Node.bare := by
    rw [program.occurrences_bare, List.map_map, List.map_map]
    rfl
  simp only [usedHardware, nodes, List.filterMap_map, List.any_map, Function.comp_def,
    Node.componentUse?_bare, Node.timer?_bare, Node.usesSerial_bare, Node.usesBrickLight_bare,
    ComponentUse.isWired_bare]

namespace Configuration

theorem claims_bare (configuration : Configuration) (platform : Platform) :
    configuration.bare.claims platform =
      (configuration.claims platform).map (Prod.map Component.bare id) := by
  have onStock : ∀ (free : List String) (components : List Component),
      platform.claims free (components.map Component.bare) =
        (platform.claims free components).map (Prod.map Component.bare id) := by
    intro free components
    induction components generalizing free with
    | nil => rfl
    | cons component rest ih =>
      simp only [List.map_cons, Platform.claims, ← ih]
      rfl
  exact onStock platform.freePins configuration.components

theorem validate_bare (configuration : Configuration) (platform : Platform) :
    configuration.bare.validate platform = configuration.validate platform := by
  simp only [validate, pinFindings, portFindings, claims_bare, List.flatMap_map]
  simp only [components_bare, List.flatMap_map]
  rfl

theorem events_bare (configuration : Configuration) (platform : Platform) :
    Project.configurationEvents configuration.bare platform =
      Project.configurationEvents configuration platform := by
  simp only [Project.configurationEvents, claims_bare, List.flatMap_map]
  simp only [components_bare, List.filter_map, List.map_map]
  rfl

end Configuration

/-! ## Types -/

namespace Typing

/-- The error at the node without annotations. -/
def Fault.bare (fault : Fault) : Fault :=
  { fault with label := fault.label.bare }

section Faults
variable (env : Env)

theorem infer?_bare (expr : Expr) : infer? env expr.bare = infer? env expr := by
  induction expr with
  | binary label op left right ihLeft ihRight => simp only [Expr.bare, infer?, ihLeft, ihRight]
  | unary label op operand ih => simp only [Expr.bare, infer?, ih]
  | _ => rfl

theorem ownFault?_bare (expr : Expr) :
    ownFault? env expr.bare = (ownFault? env expr).map Fault.bare := by
  cases expr with
  | var label name type =>
    simp only [Expr.bare, ownFault?]
    cases env.type? name with
    | none => rfl
    | some declared => dsimp only; split <;> rfl
  | binary label op left right =>
    simp only [Expr.bare, ownFault?, infer?_bare]
    cases infer? env left with
    | none => rfl
    | some left =>
      cases infer? env right with
      | none => rfl
      | some right => dsimp only; split <;> rfl
  | unary label op operand =>
    simp only [Expr.bare, ownFault?, infer?_bare]
    cases infer? env operand with
    | none => rfl
    | some found => dsimp only; split <;> rfl
  | _ => rfl

theorem faults_bare (expr : Expr) : faults env expr.bare = (faults env expr).map Fault.bare := by
  have own (expr : Expr) :
      (ownFault? env expr.bare).toList = (ownFault? env expr).toList.map Fault.bare := by
    rw [ownFault?_bare, Option.toList_map]
  induction expr with
  | binary label op left right ihLeft ihRight =>
    simp only [faults, List.map_append, ← own, ← ihLeft, ← ihRight]
    rfl
  | unary label op operand ih =>
    simp only [faults, List.map_append, ← own, ← ih]
    rfl
  | _ => exact own _

theorem slotFault?_bare (label : Label) (expr : Expr) (expected : ValueType) (slot : Slot) :
    slotFault? env label.bare expr.bare expected slot =
      (slotFault? env label expr expected slot).map Fault.bare := by
  simp only [slotFault?, infer?_bare]
  cases infer? env expr with
  | none => rfl
  | some found => dsimp only; split <;> rfl

theorem slotFaults_bare (expr : Expr) (expected : ValueType) (slot : Slot) :
    slotFaults env expr.bare expected slot = (slotFaults env expr expected slot).map Fault.bare := by
  simp only [slotFaults, faults_bare, Expr.label_bare, slotFault?_bare, Option.toList_map, List.map_append]

theorem assignFaults_bare (name : Identifier) (value : Expr) :
    assignFaults env name value.bare = (assignFaults env name value).map Fault.bare := by
  unfold assignFaults
  cases env.type? name with
  | none => exact faults_bare env value
  | some expected => exact slotFaults_bare env value expected _

theorem headFaults_bare (head : LoopHead) :
    headFaults env head.bare = (headFaults env head).map Fault.bare := by
  cases head with
  | forever => rfl
  | _ expr => exact slotFaults_bare env expr _ _

mutual

theorem stmtFaults_bare : ∀ stmt : Stmt, stmtFaults env stmt.bare = (stmtFaults env stmt).map Fault.bare
  | .light .. | .lightStatus .. | .motorStop .. | .flow .. => rfl
  | .tone _ _ frequency duration => by
    simp only [Stmt.bare, stmtFaults, slotFaults_bare, List.map_append]
  | .motorOn _ _ value | .wait _ value => slotFaults_bare env value _ _
  | .showText _ _ value | .serialWrite _ value => faults_bare env value
  | .block body => sequenceFaults_bare body
  | .assign _ name value => assignFaults_bare env name value
  | .branch _ branches => branchFaults_bare branches
  | .loop _ head body => by
    simp only [Stmt.bare, stmtFaults, headFaults_bare, sequenceFaults_bare body, List.map_append]

theorem sequenceFaults_bare : ∀ body : Sequence,
    sequenceFaults env body.bare = (sequenceFaults env body).map Fault.bare
  | .mk _ statements => listFaults_bare statements

theorem listFaults_bare : ∀ statements : List Stmt,
    listFaults env (Stmt.bareList statements) = (listFaults env statements).map Fault.bare
  | [] => rfl
  | stmt :: rest => by
    simp only [Stmt.bareList, listFaults, stmtFaults_bare stmt, listFaults_bare rest, List.map_append]

theorem branchFaults_bare : ∀ branches : Branches,
    branchFaults env branches.bare = (branchFaults env branches).map Fault.bare
  | .only condition body => by
    simp only [Branches.bare, branchFaults, slotFaults_bare, sequenceFaults_bare body, List.map_append]
  | .orElse condition body otherwise => by
    simp only [Branches.bare, branchFaults, slotFaults_bare, sequenceFaults_bare body,
      sequenceFaults_bare otherwise, List.map_append]
  | .orIf condition body rest => by
    simp only [Branches.bare, branchFaults, slotFaults_bare, sequenceFaults_bare body,
      branchFaults_bare rest, List.map_append]

end

theorem taskFaults_bare (declarations : List Declaration) :
    taskFaults env (declarations.map Declaration.bare) = (taskFaults env declarations).map Fault.bare := by
  induction declarations generalizing env with
  | nil => rfl
  | cons declaration rest ih =>
    simp only [List.map_cons, taskFaults, declarationFaults, List.map_append, ← ih, ← faults_bare,
      ← Option.toList_map, ← slotFault?_bare]
    rfl

end Faults

def Summary.bare (summary : Summary) : Summary :=
  { summary with faults := summary.faults.map Fault.bare }

end Typing

theorem Program.checkTypes_bare (program : Program) : program.bare.checkTypes = program.checkTypes.bare := by
  have entries : program.bare.task.declarations.map Typing.entry =
      program.task.declarations.map Typing.entry := by
    simp only [bare, List.map_map]
    rfl
  simp only [checkTypes, entries, Typing.Summary.bare, List.map_append, ← Typing.taskFaults_bare,
    ← Typing.sequenceFaults_bare]
  rfl

/-! ## Generation -/

namespace Sketch

section Code
variable (configuration : Configuration)

theorem resolvePin_bare (name : Identifier) (role : String) :
    resolvePin configuration.bare name role = resolvePin configuration name role := by
  unfold resolvePin
  rw [configuration.component?_bare]
  cases configuration.component? name.text <;> rfl

theorem resolveDisplay_bare (name : Identifier) :
    resolveDisplay configuration.bare name = resolveDisplay configuration name := by
  unfold resolveDisplay
  rw [configuration.component?_bare]
  cases configuration.component? name.text <;> rfl

theorem sensorTerm_bare (port : Identifier) (device : Sensor) :
    sensorTerm configuration.bare port device = sensorTerm configuration port device := by
  cases device <;> simp only [sensorTerm, resolvePin_bare]

theorem exprTerm_bare (expr : Expr) :
    exprTerm configuration.bare expr.bare = exprTerm configuration expr := by
  induction expr with
  | binary label op left right ihLeft ihRight => simp only [Expr.bare, exprTerm, ihLeft, ihRight]
  | unary label op operand ih => simp only [Expr.bare, exprTerm, ih]
  | sensor label device port => exact sensorTerm_bare configuration port device
  | _ => rfl

theorem headLoops_bare (head : LoopHead) : headLoops head.bare = headLoops head := by
  cases head <;> rfl

mutual

theorem stmtLoops_bare : ∀ stmt : Stmt, stmtLoops stmt.bare = stmtLoops stmt
  | .block body => sequenceLoops_bare body
  | .branch _ branches => branchLoops_bare branches
  | .loop _ head body => by simp only [Stmt.bare, stmtLoops, headLoops_bare, sequenceLoops_bare body]
  | .light .. | .lightStatus .. | .tone .. | .motorOn .. | .motorStop .. | .showText .. | .serialWrite ..
  | .assign .. | .flow .. | .wait .. => rfl

theorem sequenceLoops_bare : ∀ body : Sequence, sequenceLoops body.bare = sequenceLoops body
  | .mk _ statements => listLoops_bare statements

theorem listLoops_bare : ∀ statements : List Stmt,
    listLoops (Stmt.bareList statements) = listLoops statements
  | [] => rfl
  | stmt :: rest => by simp only [Stmt.bareList, listLoops, stmtLoops_bare stmt, listLoops_bare rest]

theorem branchLoops_bare : ∀ branches : Branches, branchLoops branches.bare = branchLoops branches
  | .only _ body => sequenceLoops_bare body
  | .orElse _ body otherwise => by
    simp only [Branches.bare, branchLoops, sequenceLoops_bare body, sequenceLoops_bare otherwise]
  | .orIf _ body rest => by
    simp only [Branches.bare, branchLoops, sequenceLoops_bare body, branchLoops_bare rest]

end

theorem loopHead_bare (index : Nat) (head : LoopHead) :
    loopHead configuration.bare index head.bare = loopHead configuration index head := by
  cases head <;> simp only [LoopHead.bare, loopHead, exprTerm_bare]

mutual

theorem stmtCode_bare (index : Nat) : ∀ stmt : Stmt,
    stmtCode configuration.bare index stmt.bare = stmtCode configuration index stmt
  | .light .. | .flow .. => rfl
  | .lightStatus _ status => by cases status <;> rfl
  | .tone .. | .motorOn .. | .motorStop .. | .showText .. | .serialWrite .. | .assign .. | .wait .. => by
    simp only [Stmt.bare, stmtCode, resolvePin_bare, resolveDisplay_bare, exprTerm_bare]
  | .block body => sequenceCode_bare index body
  | .branch _ branches => by simp only [Stmt.bare, stmtCode, branchCode_bare index branches]
  | .loop _ head body => by
    simp only [Stmt.bare, stmtCode, loopHead_bare, headLoops_bare, sequenceCode_bare _ body]

theorem sequenceCode_bare (index : Nat) : ∀ body : Sequence,
    sequenceCode configuration.bare index body.bare = sequenceCode configuration index body
  | .mk _ statements => listCode_bare index statements

theorem listCode_bare (index : Nat) : ∀ statements : List Stmt,
    listCode configuration.bare index (Stmt.bareList statements) = listCode configuration index statements
  | [] => rfl
  | stmt :: rest => by
    simp only [Stmt.bareList, listCode, stmtCode_bare index stmt, stmtLoops_bare, listCode_bare _ rest]

theorem branchCode_bare (index : Nat) : ∀ branches : Branches,
    branchCode configuration.bare index branches.bare = branchCode configuration index branches
  | .only condition body => by
    simp only [Branches.bare, branchCode, exprTerm_bare, sequenceCode_bare _ body]
  | .orElse condition body otherwise => by
    simp only [Branches.bare, branchCode, exprTerm_bare, sequenceLoops_bare, sequenceCode_bare _ body,
      sequenceCode_bare _ otherwise]
  | .orIf condition body rest => by
    simp only [Branches.bare, branchCode, exprTerm_bare, sequenceLoops_bare, sequenceCode_bare _ body,
      branchCode_bare _ rest]

end

theorem initialCommand_bare (declaration : Declaration) :
    initialCommand configuration.bare declaration.bare = initialCommand configuration declaration := by
  simp only [initialCommand, Declaration.bare, exprTerm_bare]

theorem usedComponents_bare (used : UsedHardware) :
    usedComponents configuration.bare used = (usedComponents configuration used).map Component.bare :=
  List.filter_map

theorem pinDefinitions_bare (component : Component) (roles : List String) :
    pinDefinitions component.bare roles = pinDefinitions component roles := by
  induction roles with
  | nil => rfl
  | cons role rest ih => simp only [pinDefinitions, ih]; rfl

theorem componentDefinitions_bare (component : Component) :
    componentDefinitions component.bare = componentDefinitions component := by
  simp only [componentDefinitions, pinDefinitions_bare]
  rfl

theorem componentSetup_bare (component : Component) :
    componentSetup configuration.bare component.bare = componentSetup configuration component := by
  simp only [componentSetup, resolvePin_bare]
  rfl

end Code

end Sketch

theorem Program.sketch_bare (program : Program) (configuration : Configuration) (used : UsedHardware) :
    program.bare.sketch configuration.bare used = program.sketch configuration used := by
  have globals : Sketch.programGlobals program.bare used = Sketch.programGlobals program used := by
    simp only [Sketch.programGlobals, bare, List.map_map]
    rfl
  simp only [sketch, globals, Sketch.usedComponents_bare, List.any_map]
  simp only [bare, Sketch.sequenceCode_bare, List.mapM_map, Function.comp_def, Sketch.initialCommand_bare,
    Sketch.componentDefinitions_bare, Sketch.componentSetup_bare]
  rfl

theorem Program.generate_bare (program : Program) (configuration : Configuration) (used : UsedHardware) :
    program.bare.generate configuration.bare used = program.generate configuration used := by
  rw [generate, sketch_bare, generate]

end BlockSketch
