import BlockSketch.Proofs.Usage

/-!
Hardware that a program does not use. Code looks components up by the names in it, so two
configurations that resolve these names alike give the same code. A component that is neither
named by a node nor to be set up can therefore be taken out of the configuration, and names
that the configuration does not have can be added to the hardware: the sketch stays the same
and so does the error if there is none (`idle_hardware_leaves_sketch`).
-/
namespace BlockSketch

/-! ## Configurations that resolve names alike -/

namespace Sketch

/-- The configurations resolve each of the names to the same, or fail alike. -/
def Alike (configuration other : Configuration) (names : List Name) : Prop :=
  ∀ name ∈ names, name.resolve configuration = name.resolve other

section
variable {configuration other : Configuration} {scope : List Identifier} {inLoop : Bool} {index : Nat}

theorem alike_append {first rest : List Name} :
    Alike configuration other (first ++ rest) ↔
      Alike configuration other first ∧ Alike configuration other rest :=
  List.forall_mem_append

theorem alike_names_cons {occurrence : Occurrence} {rest : List Occurrence} :
    Alike configuration other (Occurrence.names (occurrence :: rest)) ↔
      Alike configuration other occurrence.node.names ∧ Alike configuration other (Occurrence.names rest) := by
  rw [Occurrence.names_cons, alike_append]

theorem alike_names_append {first rest : List Occurrence} :
    Alike configuration other (Occurrence.names (first ++ rest)) ↔
      Alike configuration other (Occurrence.names first) ∧ Alike configuration other (Occurrence.names rest) := by
  rw [Occurrence.names_append, alike_append]

theorem resolvePin_congr {names : List Name} {port : Identifier} {role : String}
    (alike : Alike configuration other names) (member : .pin port role ∈ names) :
    resolvePin configuration port role = resolvePin other port role :=
  alike _ member

theorem resolveDisplay_congr {names : List Name} {port : Identifier}
    (alike : Alike configuration other names) (member : .display port ∈ names) :
    resolveDisplay configuration port = resolveDisplay other port :=
  alike _ member

/-! ## Code from alike configurations -/

theorem sensorTerm_congr {port : Identifier} {device : Sensor}
    (alike : Alike configuration other (device.roles.map (.pin port))) :
    sensorTerm configuration port device = sensorTerm other port device := by
  cases device with
  | ultrasonic =>
    rw [sensorTerm, sensorTerm, resolvePin_congr alike (.head _), resolvePin_congr alike (.tail _ (.head _))]
  | _ => rw [sensorTerm, sensorTerm, resolvePin_congr alike (.head _)]

theorem exprTerm_congr {expr : Expr}
    (alike : Alike configuration other (Occurrence.names (expr.occurrences scope inLoop))) :
    exprTerm configuration expr = exprTerm other expr := by
  rw [Expr.names_occurrences] at alike
  induction expr with
  | binary label op left right ihLeft ihRight =>
    rw [Expr.parts, List.flatMap_cons, List.flatMap_append, alike_append, alike_append] at alike
    rw [exprTerm, exprTerm, ihLeft alike.2.1, ihRight alike.2.2]
  | unary label op operand ih =>
    rw [Expr.parts, List.flatMap_cons, alike_append] at alike
    rw [exprTerm, exprTerm, ih alike.2]
  | sensor label device port =>
    simp only [Expr.parts, List.flatMap_singleton] at alike
    exact sensorTerm_congr alike
  | _ => rfl

theorem loopHead_congr {head : LoopHead}
    (alike : Alike configuration other (Occurrence.names (head.occurrences scope inLoop))) :
    loopHead configuration index head = loopHead other index head := by
  cases head with
  | forever => rfl
  | _ => rw [loopHead, loopHead, exprTerm_congr alike]

mutual

theorem stmtCode_congr {scope : List Identifier} {inLoop : Bool} {index : Nat} : ∀ {stmt : Stmt},
    Alike configuration other (Occurrence.names (stmt.occurrences scope inLoop)) →
      stmtCode configuration index stmt = stmtCode other index stmt
  | .light _ _ _, _ => rfl
  | .lightStatus _ .off, _ => rfl
  | .lightStatus _ .reset, _ => rfl
  | .tone _ _ _ _, alike => by
    rw [Stmt.occurrences, alike_names_cons, alike_names_append] at alike
    obtain ⟨own, frequency, duration⟩ := alike
    rw [stmtCode, stmtCode, resolvePin_congr own (.head _), exprTerm_congr frequency, exprTerm_congr duration]
  | .motorOn _ _ _, alike => by
    rw [Stmt.occurrences, alike_names_cons] at alike
    obtain ⟨own, power⟩ := alike
    rw [stmtCode, stmtCode, resolvePin_congr own (.head _), resolvePin_congr own (.tail _ (.head _)),
      exprTerm_congr power]
  | .motorStop _ _, alike => by
    rw [Stmt.occurrences, alike_names_cons] at alike
    obtain ⟨own, _⟩ := alike
    rw [stmtCode, stmtCode, resolvePin_congr own (.head _), resolvePin_congr own (.tail _ (.head _))]
  | .showText _ _ _, alike => by
    rw [Stmt.occurrences, alike_names_cons] at alike
    obtain ⟨own, shown⟩ := alike
    rw [stmtCode, stmtCode, resolveDisplay_congr own (.head _), exprTerm_congr shown]
  | .serialWrite _ _, alike => by
    rw [Stmt.occurrences, alike_names_cons] at alike
    rw [stmtCode, stmtCode, exprTerm_congr alike.2]
  | .block body, alike => sequenceCode_congr alike
  | .assign _ _ _, alike => by
    rw [Stmt.occurrences, alike_names_cons] at alike
    rw [stmtCode, stmtCode, exprTerm_congr alike.2]
  | .branch _ branches, alike => by
    rw [Stmt.occurrences, alike_names_cons] at alike
    rw [stmtCode, stmtCode, branchCode_congr alike.2]
  | .loop _ head body, alike => by
    rw [Stmt.occurrences, alike_names_cons, alike_names_append] at alike
    obtain ⟨_, opening, inside⟩ := alike
    rw [stmtCode, stmtCode, loopHead_congr opening, sequenceCode_congr inside]
  | .flow _ _, _ => rfl
  | .wait _ _, alike => by
    rw [Stmt.occurrences, alike_names_cons] at alike
    rw [stmtCode, stmtCode, exprTerm_congr alike.2]

/-- Configurations that resolve the names in a list of statements alike give it the same code
    or the same error. -/
theorem sequenceCode_congr {scope : List Identifier} {inLoop : Bool} {index : Nat} : ∀ {body : Sequence},
    Alike configuration other (Occurrence.names (body.occurrences scope inLoop)) →
      sequenceCode configuration index body = sequenceCode other index body
  | .mk _ statements, alike => by
    rw [Sequence.occurrences, alike_names_cons] at alike
    rw [sequenceCode, sequenceCode, listCode_congr alike.2]

theorem listCode_congr {scope : List Identifier} {inLoop : Bool} {index : Nat} : ∀ {statements : List Stmt},
    Alike configuration other (Occurrence.names (Stmt.listOccurrences scope inLoop statements)) →
      listCode configuration index statements = listCode other index statements
  | [], _ => rfl
  | stmt :: rest, alike => by
    rw [Stmt.listOccurrences, alike_names_append] at alike
    rw [listCode, listCode, stmtCode_congr alike.1, listCode_congr alike.2]

theorem branchCode_congr {scope : List Identifier} {inLoop : Bool} {index : Nat} : ∀ {branches : Branches},
    Alike configuration other (Occurrence.names (branches.occurrences scope inLoop)) →
      branchCode configuration index branches = branchCode other index branches
  | .only _ body, alike => by
    rw [Branches.occurrences, alike_names_append] at alike
    rw [branchCode, branchCode, exprTerm_congr alike.1, sequenceCode_congr alike.2]
  | .orElse _ body otherwise, alike => by
    rw [Branches.occurrences, alike_names_append, alike_names_append] at alike
    obtain ⟨⟨condition, first⟩, second⟩ := alike
    rw [branchCode, branchCode, exprTerm_congr condition, sequenceCode_congr first, sequenceCode_congr second]
  | .orIf _ body rest, alike => by
    rw [Branches.occurrences, alike_names_append, alike_names_append] at alike
    obtain ⟨⟨condition, first⟩, others⟩ := alike
    rw [branchCode, branchCode, exprTerm_congr condition, sequenceCode_congr first, branchCode_congr others]

end

theorem initialCommands_congr {declarations : List Declaration}
    (alike : Alike configuration other (Occurrence.names (Declaration.occurrences scope declarations))) :
    declarations.mapM (initialCommand configuration) = declarations.mapM (initialCommand other) := by
  induction declarations generalizing scope with
  | nil => rfl
  | cons declaration rest ih =>
    rw [Declaration.occurrences, alike_names_cons, alike_names_append] at alike
    obtain ⟨_, value, others⟩ := alike
    rw [List.mapM_cons, List.mapM_cons, initialCommand, initialCommand, exprTerm_congr value, ih others]

theorem componentSetup_congr {component : Component}
    (same : configuration.component? component.name.text = other.component? component.name.text) :
    componentSetup configuration component = componentSetup other component := by
  simp only [componentSetup, resolvePin, same]

end
end Sketch

/-! ## Taking a component out -/

/-- The configuration without this component. -/
def Configuration.without (configuration : Configuration) (component : Component) : Configuration where
  robot := configuration.robot
  components := configuration.components.erase component
  index := ((configuration.components.erase component).map fun other => other.name.text).zipIdx
  names_nodup := configuration.names_nodup.sublist (List.erase_sublist.map Component.name)
  indexed := rfl

/-- Other names are looked up as before. -/
theorem Configuration.component?_without {configuration : Configuration} {component : Component} {name : Identifier}
    (different : name ≠ component.name) :
    (configuration.without component).component? name.text = configuration.component? name.text := by
  refine Option.ext fun found => ?_
  rw [component?_eq_some_iff, component?_eq_some_iff]
  refine and_congr_left fun named => List.mem_erase_of_ne ?_
  rintro rfl
  exact different named.symm

/-- A component that is not used is not set up anyway. -/
theorem Sketch.usedComponents_without {configuration : Configuration} {component : Component} {used : UsedHardware}
    (listed : component ∈ configuration.components) (unused : component.name.text ∉ used.components) :
    usedComponents (configuration.without component) used = usedComponents configuration used := by
  obtain ⟨before, after, _, whole, rest⟩ := List.exists_erase_eq listed
  have skipped : ¬used.uses component.name.text = true := by rwa [UsedHardware.uses, List.contains_iff_mem]
  change (configuration.components.erase component).filter _ = configuration.components.filter _
  rw [rest, whole, List.filter_append, List.filter_append, List.filter_cons, if_neg skipped]

section
variable {program : Program} {configuration : Configuration} {component : Component} {used : UsedHardware}

/-- Nodes that do not name the component resolve their names without it. -/
theorem Program.alike_without {occurrences : List Occurrence}
    (inside : ∀ occurrence ∈ occurrences, occurrence ∈ program.occurrences)
    (unnamed : ∀ node use, program.Holds node → node.Needs use → use.name ≠ component.name) :
    Sketch.Alike (configuration.without component) configuration (Occurrence.names occurrences) := by
  intro name refers
  obtain ⟨occurrence, member, named⟩ := List.mem_flatMap.mp refers
  have found {use : ComponentUse} (uses : occurrence.node.componentUse? = some use) :
      (configuration.without component).component? use.name.text = configuration.component? use.name.text := by
    obtain ⟨node, held, needs⟩ := (exists_occurrence_iff (·.Needs use) (fun _ needs => by cases needs)
      (fun _ needs => by cases needs)).mp ⟨occurrence, inside occurrence member, Node.needs_iff.mpr uses⟩
    exact Configuration.component?_without (unnamed node use held needs)
  cases name with
  | pin port role =>
    obtain ⟨use, uses, rfl, _⟩ := Node.use_of_pin named
    rw [Sketch.Name.resolve_pin, Sketch.Name.resolve_pin, Sketch.resolvePin, Sketch.resolvePin, found uses]
  | display port =>
    obtain ⟨use, uses, rfl, _⟩ := Node.use_of_display named
    rw [Sketch.Name.resolve_display, Sketch.Name.resolve_display, Sketch.resolveDisplay, Sketch.resolveDisplay,
      found uses]
  | _ => rfl

/-- Components that are used are set up as before. -/
theorem Sketch.setup_without (unused : component.name.text ∉ used.components) :
    (usedComponents configuration used).mapM (componentSetup (configuration.without component)) =
      (usedComponents configuration used).mapM (componentSetup configuration) := by
  refine Outcome.mapM_congr fun other member => componentSetup_congr (Configuration.component?_without ?_)
  intro same
  have isUsed := (List.mem_filter.mp member).2
  rw [UsedHardware.uses, List.contains_iff_mem, same] at isUsed
  exact unused isUsed

theorem Program.generate_without (listed : component ∈ configuration.components)
    (unused : component.name.text ∉ used.components)
    (unnamed : ∀ node use, program.Holds node → node.Needs use → use.name ≠ component.name) :
    program.generate (configuration.without component) used = program.generate configuration used := by
  have body : Sketch.sequenceCode (configuration.without component) 0 program.body =
      Sketch.sequenceCode configuration 0 program.body :=
    Sketch.sequenceCode_congr (program.alike_without (fun _ => mem_occurrences_of_body) unnamed)
  have initial : program.task.declarations.mapM (Sketch.initialCommand (configuration.without component)) =
      program.task.declarations.mapM (Sketch.initialCommand configuration) :=
    Sketch.initialCommands_congr (program.alike_without (fun _ => mem_occurrences_of_declarations) unnamed)
  rw [generate, generate, sketch, sketch, body, initial, Sketch.usedComponents_without listed unused]
  dsimp only
  rw [Sketch.setup_without unused]

/-- Only the components of the configuration are looked for in the hardware. -/
theorem Sketch.usedComponents_congr {more : UsedHardware}
    (same : ∀ component ∈ configuration.components,
      component.name.text ∈ more.components ↔ component.name.text ∈ used.components) :
    usedComponents configuration more = usedComponents configuration used := by
  refine List.filter_congr fun component listed => ?_
  rw [Bool.eq_iff_iff, UsedHardware.uses, UsedHardware.uses, List.contains_iff_mem, List.contains_iff_mem]
  exact same component listed

end

/-- A component that no node names and that is not to be set up can be taken out of the
    configuration, and names that the configuration does not have can be added to the
    hardware. -/
theorem idle_hardware_leaves_sketch (program : Program) (configuration : Configuration) (used : UsedHardware) :
    (∀ component ∈ configuration.components, component.name.text ∉ used.components →
      (∀ node use, program.Holds node → node.Needs use → use.name ≠ component.name) →
        program.generate (configuration.without component) used = program.generate configuration used) ∧
    ∀ added components : List String,
      (∀ name ∈ added, ∀ component ∈ configuration.components, component.name.text ≠ name) →
      (∀ name, name ∈ components ↔ name ∈ used.components ∨ name ∈ added) →
        program.generate configuration { used with components } = program.generate configuration used := by
  refine ⟨fun component => Program.generate_without, ?_⟩
  intro added components unknown members
  have same : Sketch.usedComponents configuration { used with components } =
      Sketch.usedComponents configuration used := by
    refine Sketch.usedComponents_congr fun component listed => ?_
    rw [members, or_iff_left]
    exact fun member => unknown _ member component listed rfl
  rw [Program.generate, Program.generate, Program.sketch, Program.sketch, same]
  rfl

/-- A display without any pin. -/
def Component.spare : Component where
  name := ⟨"spare", by decide⟩
  type := .lcd
  ports := []
  properties := none
  roles_nodup := List.nodup_nil

/-- The spare display comes before the sensor that is used. -/
def Configuration.cluttered : Configuration where
  robot := "arduino"
  components := [.spare,
    { name := ⟨"dusk", by decide⟩, type := .light, ports := [⟨"OUTPUT", ⟨"A1", by decide⟩⟩],
      properties := none, roles_nodup := by decide }]
  index := [("spare", 0), ("dusk", 1)]
  names_nodup := by decide
  indexed := rfl

/-- A program that sends what the sensor reads. -/
def Program.dusk : Program where
  task := ⟨⟨[0], {}⟩, []⟩
  body := .mk ⟨[1], {}⟩ [
    .serialWrite ⟨[0, 1], {}⟩ (.sensor ⟨[0, 0, 1], {}⟩ .light ⟨"dusk", by decide⟩)]

theorem spare_leaves_sketch :
    Program.dusk.generate (Configuration.cluttered.without .spare) ⟨["dusk"], [], true, false⟩ =
        Program.dusk.generate .cluttered ⟨["dusk"], [], true, false⟩ ∧
      Program.dusk.generate .cluttered ⟨["dawn", "dusk", "noon"], [], true, false⟩ =
        Program.dusk.generate .cluttered ⟨["dusk"], [], true, false⟩ := by
  obtain ⟨taken, added⟩ := idle_hardware_leaves_sketch .dusk .cluttered ⟨["dusk"], [], true, false⟩
  constructor
  · refine taken .spare List.mem_cons_self (by decide) fun node use held needs same => ?_
    have named : use.name.text ∈ (Program.dusk.usedHardware none).components :=
      Program.mem_components_iff.mpr ⟨node, use, held, needs, rfl, nofun⟩
    rw [same] at named
    revert named
    decide
  · exact added ["dawn", "noon"] ["dawn", "dusk", "noon"] (by decide) (by simp; tauto)

end BlockSketch
