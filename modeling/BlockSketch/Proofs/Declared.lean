import BlockSketch.Proofs.Source

/-!
Every name that the setup or the loop of a sketch refers to is declared before them:
what the validator records as used is what the sketch sets up, and the roles that the
definitions cover are those that the code of the blocks asks for.
-/
namespace BlockSketch

/-! ## What a program uses -/

theorem UsedHardware.mem_ascending_iff {timers : List UInt8} {timer : UInt8} :
    timer ∈ ascending timers ↔ timer ∈ timers := by
  unfold ascending
  rw [List.mem_filter, List.contains_iff_mem]
  refine and_iff_right (List.mem_map.mpr ⟨timer.toNat, ?_, UInt8.ofNat_toNat⟩)
  exact List.mem_range.mpr timer.toNat_lt

namespace Program
variable {program : Program} {configuration : Option Configuration} {occurrence : Occurrence}

theorem uses_of_mem (member : occurrence ∈ program.occurrences) {use : ComponentUse}
    (uses : occurrence.node.componentUse? = some use) (wired : use.isWired configuration = true) :
    (program.usedHardware configuration).uses use.name.text = true := by
  have listed : use ∈ ((program.occurrences.map Occurrence.node).filterMap Node.componentUse?).filter
      (fun use => use.isWired configuration) :=
    List.mem_filter.mpr ⟨List.mem_filterMap.mpr ⟨_, List.mem_map_of_mem member, uses⟩, wired⟩
  refine List.contains_iff_mem.mpr (List.mem_eraseDups.mpr ?_)
  exact List.mem_map_of_mem listed

theorem mem_timers_of_mem (member : occurrence ∈ program.occurrences) {number : UInt8}
    (reads : occurrence.node.timer? = some number) :
    number ∈ (program.usedHardware configuration).timers :=
  UsedHardware.mem_ascending_iff.mpr
    (List.mem_filterMap.mpr ⟨_, List.mem_map_of_mem member, reads⟩)

theorem serial_of_mem (member : occurrence ∈ program.occurrences)
    (writes : occurrence.node.usesSerial = true) :
    (program.usedHardware configuration).serial = true :=
  List.any_eq_true.mpr ⟨_, List.mem_map_of_mem member, writes⟩

end Program

/-- The code of a node refers to a timer only if the node reads it. -/
theorem Node.timer_of_names {node : Node} {number : UInt8} (refers : .timer number ∈ node.names) :
    node.timer? = some number := by
  cases node with
  | expr part =>
    cases part with
    | timer label clock =>
      obtain rfl : number = clock.number := by simpa [names, Expr.names] using refers
      rfl
    | _ => simp [names, Expr.names] at refers
  | stmt part => cases part <;> simp [names, Stmt.names] at refers
  | declaration part => simp [names] at refers
  | task part => simp [names] at refers

theorem Node.counter_not_mem_names (node : Node) (index : Nat) : .counter index ∉ node.names := by
  cases node with
  | expr part => cases part <;> simp [names, Expr.names]
  | stmt part => cases part <;> simp [names, Stmt.names]
  | declaration part => simp [names]
  | task part => simp [names]

/-! ## What a component defines and sets up -/

namespace Sketch
variable {configuration : Configuration} {component : Component}

theorem mem_pinDefinitions {roles : List String} {definitions : List Definition}
    (defined : pinDefinitions component roles = .ok definitions) {role : String} (needed : role ∈ roles) :
    ∃ wired, .pin (.pin component.name role) wired ∈ definitions := by
  induction roles generalizing definitions with
  | nil => cases needed
  | cons first rest ih =>
    unfold pinDefinitions at defined
    cases wired : component.pin? first with
    | none => simp [wired] at defined
    | some pin =>
      simp only [wired] at defined
      obtain ⟨others, later, joined⟩ := Outcome.bind_eq_ok_iff.mp defined
      cases joined
      rcases List.mem_cons.mp needed with rfl | needed
      · exact ⟨pin, List.mem_cons_self⟩
      · obtain ⟨found, member⟩ := ih later needed
        exact ⟨found, List.mem_cons_of_mem _ member⟩

/-- The definitions of a component cover the roles that its type needs. -/
theorem mem_componentDefinitions_of_role {definitions : List Definition}
    (defined : componentDefinitions component = .ok definitions) {role : String}
    (needed : role ∈ component.type.requiredRoles) :
    ∃ wired, .pin (.pin component.name role) wired ∈ definitions := by
  unfold componentDefinitions at defined
  obtain ⟨pins, made, rest⟩ := Outcome.bind_eq_ok_iff.mp defined
  obtain ⟨wired, member⟩ := mem_pinDefinitions made needed
  by_cases display : component.type = .lcd
  · rw [if_pos display] at rest
    cases rest
    exact ⟨wired, List.mem_append_left _ member⟩
  · rw [if_neg display] at rest
    cases rest
    exact ⟨wired, member⟩

theorem mem_componentDefinitions_of_display {definitions : List Definition}
    (defined : componentDefinitions component = .ok definitions) (display : component.type = .lcd) :
    ∃ pins, .display (.display component.name) pins ∈ definitions := by
  unfold componentDefinitions at defined
  obtain ⟨pins, _, rest⟩ := Outcome.bind_eq_ok_iff.mp defined
  rw [if_pos display] at rest
  cases rest
  exact ⟨_, List.mem_append_right _ (List.mem_singleton.mpr rfl)⟩

/-- The setup of a component refers to pins that its type needs, and to the display that
    it is. -/
theorem names_of_componentSetup {commands : List Command}
    (prepared : componentSetup configuration component = .ok commands) {name : Name}
    (refers : name ∈ commands.flatMap Command.names) :
    (∃ role ∈ component.type.requiredRoles, name = .pin component.name role) ∨
      component.type = .lcd ∧ name = .display component.name := by
  unfold componentSetup at prepared
  obtain ⟨modes, made, rest⟩ := Outcome.bind_eq_ok_iff.mp prepared
  have ofModes (member : name ∈ modes.flatMap Command.names) :
      ∃ role ∈ component.type.requiredRoles, name = .pin component.name role := by
    obtain ⟨command, listed, named⟩ := List.mem_flatMap.mp member
    obtain ⟨⟨role, mode⟩, entry, done⟩ := Outcome.exists_item_of_mem made listed
    obtain ⟨pin, resolved, isMode⟩ := Outcome.bind_eq_ok_iff.mp done
    cases isMode
    obtain rfl := List.mem_singleton.mp named
    exact ⟨role, pinModes_required _ _ entry, (resolvePin_eq_ok_iff.mp resolved).1⟩
  by_cases display : component.type = .lcd
  · rw [if_pos display] at rest
    cases rest
    rcases List.mem_append.mp refers with started | set
    · exact .inr ⟨display, List.mem_singleton.mp started⟩
    · exact .inl (ofModes set)
  · rw [if_neg display] at rest
    cases rest
    exact .inl (ofModes refers)

end Sketch

/-! ## Sketches -/

namespace Sketch

/-- The names that the setup and the loop of a sketch refer to. -/
def references (sketch : Sketch) : List Name :=
  sketch.setup.flatMap Command.names ++ Instruction.blockNames sketch.loop

/-- The line that declares the name stands among the definitions or the globals: a constant
    for a pin, an object for a display, a start time for a timer, a variable of its type.
    Counters are declared nowhere but in the heads of their loops. -/
def Declares (sketch : Sketch) : Name → Prop
  | .pin component role => ∃ wired : Pin,
    "const int " ++ (Name.pin component role).text ++ " = " ++ wired.text ++ ";" ∈
      sketch.definitions.map Definition.render
  | .display component => ∃ pins : List Name,
    "LiquidCrystal " ++ (Name.display component).text ++ "(" ++
        ", ".intercalate (pins.map Name.text) ++ ");" ∈
      sketch.definitions.map Definition.render
  | .timer number =>
    "unsigned long " ++ (Name.timer number).text ++ " = millis();" ∈ sketch.globals.map Global.render
  | .var name => ∃ type : ValueType,
    typeText type ++ " " ++ (Name.var name).text ++ ";" ∈ sketch.globals.map Global.render
  | .counter _ => False

end Sketch

namespace Program
variable {program : Program} {configuration : Configuration} {used : UsedHardware} {sketch : Sketch}

/-- The parts that a sketch is made of. -/
theorem parts_of_sketch (made : program.sketch configuration used = .ok sketch) :
    ∃ loop initial definitions setup,
      Sketch.sequenceCode configuration 0 program.body = .ok loop ∧
      program.task.declarations.mapM (Sketch.initialCommand configuration) = .ok initial ∧
      (Sketch.usedComponents configuration used).mapM Sketch.componentDefinitions = .ok definitions ∧
      (Sketch.usedComponents configuration used).mapM (Sketch.componentSetup configuration) = .ok setup ∧
      sketch.definitions = definitions.flatten ∧ sketch.globals = Sketch.programGlobals program used ∧
      sketch.setup = (if used.serial then [.openSerial] else []) ++ setup.flatten ++ initial ∧
      sketch.loop = loop := by
  unfold Program.sketch at made
  obtain ⟨loop, body, made⟩ := Outcome.bind_eq_ok_iff.mp made
  obtain ⟨initial, values, made⟩ := Outcome.bind_eq_ok_iff.mp made
  obtain ⟨definitions, defined, made⟩ := Outcome.bind_eq_ok_iff.mp made
  obtain ⟨setup, prepared, made⟩ := Outcome.bind_eq_ok_iff.mp made
  cases made
  exact ⟨loop, initial, definitions, setup, body, values, defined, prepared, rfl, rfl, rfl, rfl⟩

/-- A component that is set up has its pins declared, and itself if it is a display. -/
theorem declares_of_component (made : program.sketch configuration used = .ok sketch)
    {component : Component} (listed : component ∈ Sketch.usedComponents configuration used) :
    (∀ role ∈ component.type.requiredRoles, sketch.Declares (.pin component.name role)) ∧
      (component.type = .lcd → sketch.Declares (.display component.name)) := by
  obtain ⟨_, _, definitions, _, _, _, defined, _, isDefinitions, _⟩ := parts_of_sketch made
  obtain ⟨own, member, done⟩ := Outcome.exists_value_of_mem defined listed
  have inside {definition : Sketch.Definition} (isOwn : definition ∈ own) :
      definition.render ∈ sketch.definitions.map Sketch.Definition.render := by
    rw [isDefinitions]
    exact List.mem_map_of_mem (List.mem_flatten.mpr ⟨own, member, isOwn⟩)
  constructor
  · intro role needed
    obtain ⟨wired, found⟩ := Sketch.mem_componentDefinitions_of_role done needed
    exact ⟨wired, inside found⟩
  · intro display
    obtain ⟨pins, found⟩ := Sketch.mem_componentDefinitions_of_display done display
    exact ⟨pins, inside found⟩

/-- A sketch refers to the names of the nodes, and to those of the components it sets
    up. -/
theorem cases_of_reference (made : program.sketch configuration used = .ok sketch) {name : Sketch.Name}
    (refers : name ∈ sketch.references) :
    (∃ occurrence ∈ program.occurrences, name ∈ occurrence.node.names) ∨
      ∃ component ∈ Sketch.usedComponents configuration used,
        (∃ role ∈ component.type.requiredRoles, name = .pin component.name role) ∨
          component.type = .lcd ∧ name = .display component.name := by
  obtain ⟨loop, initial, _, setup, body, values, _, prepared, _, _, isSetup, isLoop⟩ :=
    parts_of_sketch made
  have loopNames := (Sketch.names_of_resolveAll
    (Sketch.sequenceCode_names configuration program.names false 0 program.body) body).1
  have initialNames := (Sketch.names_of_resolveAll
    (Sketch.initialCommands_names configuration [] program.task.declarations) values).1
  unfold Sketch.references at refers
  rw [isSetup, isLoop, loopNames] at refers
  simp only [List.flatMap_append, List.mem_append] at refers
  rcases refers with ((serial | components) | initials) | looped
  · split at serial <;> simp [Sketch.Command.names] at serial
  · obtain ⟨command, listed, named⟩ := List.mem_flatMap.mp components
    obtain ⟨commands, member, inside⟩ := List.mem_flatten.mp listed
    obtain ⟨component, isUsed, done⟩ := Outcome.exists_item_of_mem prepared member
    refine .inr ⟨component, isUsed, ?_⟩
    exact Sketch.names_of_componentSetup done (List.mem_flatMap.mpr ⟨command, inside, named⟩)
  · rw [initialNames] at initials
    obtain ⟨occurrence, member, named⟩ := List.mem_flatMap.mp initials
    exact .inl ⟨occurrence, mem_occurrences_of_declarations member, named⟩
  · obtain ⟨occurrence, member, named⟩ := List.mem_flatMap.mp looped
    exact .inl ⟨occurrence, mem_occurrences_of_body member, named⟩

theorem openSerial_mem_setup (made : program.sketch configuration used = .ok sketch)
    (serial : used.serial = true) : .openSerial ∈ sketch.setup := by
  obtain ⟨_, _, _, _, _, _, _, _, _, _, isSetup, _⟩ := parts_of_sketch made
  rw [isSetup, if_pos serial]
  simp

namespace Checked
variable (checked : program.Checked configuration)
include checked

/-- The component of a node is among those that the sketch sets up. -/
theorem usedComponent_of_use {occurrence : Occurrence} (member : occurrence ∈ program.occurrences)
    {use : ComponentUse} (uses : occurrence.node.componentUse? = some use) :
    ∃ component ∈ Sketch.usedComponents configuration (program.usedHardware none),
      component.name = use.name ∧ component.type = use.type := by
  obtain ⟨component, _, listed, named, type⟩ := checked.component_of_use member uses
  refine ⟨component, List.mem_filter.mpr ⟨listed, ?_⟩, named, type⟩
  rw [named]
  exact uses_of_mem member uses rfl

/-- The names that the code of a node refers to are declared, each by the line of its
    family. -/
theorem declares_of_occurrence (made : program.sketch configuration (program.usedHardware none) = .ok sketch)
    {occurrence : Occurrence} (member : occurrence ∈ program.occurrences) {name : Sketch.Name}
    (refers : name ∈ occurrence.node.names) : sketch.Declares name := by
  obtain ⟨_, _, _, _, _, _, _, _, _, isGlobals, _, _⟩ := parts_of_sketch made
  cases name with
  | pin port role =>
    obtain ⟨use, uses, rfl, needed⟩ := Node.use_of_pin refers
    obtain ⟨component, listed, named, type⟩ := checked.usedComponent_of_use member uses
    rw [← named]
    exact (declares_of_component made listed).1 role (type ▸ needed)
  | display port =>
    obtain ⟨use, uses, rfl, isDisplay⟩ := Node.use_of_display refers
    obtain ⟨component, listed, named, type⟩ := checked.usedComponent_of_use member uses
    rw [← named]
    exact (declares_of_component made listed).2 (type.trans isDisplay)
  | timer number =>
    have read : number ∈ (program.usedHardware none).timers :=
      mem_timers_of_mem member (Node.timer_of_names refers)
    have global : .timer (.timer number) ∈ sketch.globals := by
      rw [isGlobals]
      exact List.mem_append_right _ (List.mem_map_of_mem read)
    exact List.mem_map_of_mem global
  | var referent =>
    obtain ⟨declaration, listed, rfl⟩ := List.mem_map.mp (checked.declared occurrence member _ refers)
    have global : .var (.var declaration.name) declaration.type ∈ sketch.globals := by
      rw [isGlobals]
      exact List.mem_append_left _ (List.mem_map.mpr ⟨declaration, listed, rfl⟩)
    exact ⟨declaration.type, List.mem_map_of_mem global⟩
  | counter index => exact absurd refers (Node.counter_not_mem_names _ _)

/-- Every name that the sketch of a checked program refers to is declared in it. -/
theorem declares_references
    (made : program.sketch configuration (program.usedHardware none) = .ok sketch) :
    ∀ name ∈ sketch.references, sketch.Declares name := by
  intro name refers
  rcases cases_of_reference made refers with ⟨occurrence, member, named⟩ | ⟨component, listed, cases⟩
  · exact checked.declares_of_occurrence made member named
  · rcases cases with ⟨role, needed, rfl⟩ | ⟨display, rfl⟩
    · exact (declares_of_component made listed).1 role needed
    · exact (declares_of_component made listed).2 display

end Checked
end Program
end BlockSketch
