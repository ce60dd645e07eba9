import BlockSketch.Proofs.Reference
import BlockSketch.Proofs.Run
import Mathlib.Data.List.Nodup

/-!
What a program and a configuration are like when the configuration validator finds no
error in them (`Program.Checked`): every component wires the roles that its type needs,
every block finds its component with the right type, and every name is declared. From
this alone it follows that all names of the program resolve, and that it does not matter
whether the used hardware was collected with the configuration or without it.
-/
namespace BlockSketch

/-! ## Scopes -/

/-- Whether the node is an expression or a statement. -/
def Node.isPart : Node → Bool
  | .expr _ => true
  | .stmt _ => true
  | .declaration _ => false
  | .task _ => false

/-- All these nodes are expressions or statements, and they see the same names. -/
def Occurrence.Share (scope : List Identifier) (occurrences : List Occurrence) : Prop :=
  ∀ occurrence ∈ occurrences, occurrence.scope = scope ∧ occurrence.node.isPart = true

section
variable {scope : List Identifier}

@[simp] theorem Occurrence.share_nil : Share scope [] := by
  simp [Share]

@[simp] theorem Occurrence.share_cons {occurrence : Occurrence} {rest : List Occurrence} :
    Share scope (occurrence :: rest) ↔
      (occurrence.scope = scope ∧ occurrence.node.isPart = true) ∧ Share scope rest := by
  simp [Share]

@[simp] theorem Occurrence.share_append {first rest : List Occurrence} :
    Share scope (first ++ rest) ↔ Share scope first ∧ Share scope rest :=
  List.forall_mem_append

@[simp] theorem Expr.share_occurrences (expr : Expr) (inLoop : Bool) :
    Occurrence.Share scope (expr.occurrences scope inLoop) := by
  intro occurrence member
  obtain ⟨part, _, rfl⟩ := List.mem_map.mp member
  exact ⟨rfl, rfl⟩

@[simp] theorem LoopHead.share_occurrences (head : LoopHead) (inLoop : Bool) :
    Occurrence.Share scope (head.occurrences scope inLoop) := by
  cases head <;> simp [LoopHead.occurrences, LoopHead.expression?]

mutual

theorem Stmt.share_occurrences (inLoop : Bool) : ∀ stmt : Stmt,
    Occurrence.Share scope (stmt.occurrences scope inLoop)
  | .light .. => by simp [Stmt.occurrences, Node.isPart]
  | .lightStatus .. => by simp [Stmt.occurrences, Node.isPart]
  | .tone .. => by simp [Stmt.occurrences, Node.isPart]
  | .motorOn .. => by simp [Stmt.occurrences, Node.isPart]
  | .motorStop .. => by simp [Stmt.occurrences, Node.isPart]
  | .showText .. => by simp [Stmt.occurrences, Node.isPart]
  | .serialWrite .. => by simp [Stmt.occurrences, Node.isPart]
  | .block body => body.share_occurrences inLoop
  | .assign .. => by simp [Stmt.occurrences, Node.isPart]
  | .branch _ branches => by simp [Stmt.occurrences, Node.isPart, branches.share_occurrences inLoop]
  | .loop _ _ body => by simp [Stmt.occurrences, Node.isPart, body.share_occurrences true]
  | .flow .. => by simp [Stmt.occurrences, Node.isPart]
  | .wait .. => by simp [Stmt.occurrences, Node.isPart]

/-- Statements declare nothing, so all nodes of a list see what the list sees. -/
theorem Sequence.share_occurrences (inLoop : Bool) : ∀ body : Sequence,
    Occurrence.Share scope (body.occurrences scope inLoop)
  | .mk _ statements => by
    simp [Sequence.occurrences, Node.isPart, Stmt.share_listOccurrences inLoop statements]

theorem Stmt.share_listOccurrences (inLoop : Bool) : ∀ statements : List Stmt,
    Occurrence.Share scope (Stmt.listOccurrences scope inLoop statements)
  | [] => by simp [Stmt.listOccurrences]
  | stmt :: rest => by
    simp [Stmt.listOccurrences, stmt.share_occurrences inLoop, Stmt.share_listOccurrences inLoop rest]

theorem Branches.share_occurrences (inLoop : Bool) : ∀ branches : Branches,
    Occurrence.Share scope (branches.occurrences scope inLoop)
  | .only _ body => by simp [Branches.occurrences, body.share_occurrences inLoop]
  | .orElse _ body otherwise => by
    simp [Branches.occurrences, body.share_occurrences inLoop, otherwise.share_occurrences inLoop]
  | .orIf _ body rest => by
    simp [Branches.occurrences, body.share_occurrences inLoop, rest.share_occurrences inLoop]

end
end

theorem Declaration.scope_subset {scope : List Identifier} {declarations : List Declaration}
    {occurrence : Occurrence} (member : occurrence ∈ Declaration.occurrences scope declarations) :
    occurrence.scope ⊆ scope ++ declarations.map Declaration.name := by
  induction declarations generalizing scope with
  | nil => cases member
  | cons declaration rest ih =>
    rcases List.mem_cons.mp member with rfl | member
    · exact List.subset_append_left ..
    · rcases List.mem_append.mp member with member | member
      · rw [(Expr.share_occurrences _ _ _ member).1]
        exact List.subset_append_left ..
      · simpa using ih member

theorem Declaration.mem_of_occurrence {scope : List Identifier} {declarations : List Declaration}
    {occurrence : Occurrence} {declaration : Declaration}
    (member : occurrence ∈ Declaration.occurrences scope declarations)
    (isDeclaration : occurrence.node = .declaration declaration) : declaration ∈ declarations := by
  induction declarations generalizing scope with
  | nil => cases member
  | cons first rest ih =>
    rcases List.mem_cons.mp member with rfl | member
    · cases isDeclaration
      exact List.mem_cons_self
    · rcases List.mem_append.mp member with member | member
      · have part := (Expr.share_occurrences _ _ _ member).2
        rw [isDeclaration] at part
        cases part
      · exact List.mem_cons_of_mem _ (ih member)

namespace Program

/-- A node sees only names that the program declares. -/
theorem scope_subset_names {program : Program} {occurrence : Occurrence}
    (member : occurrence ∈ program.occurrences) : occurrence.scope ⊆ program.names := by
  rcases List.mem_cons.mp member with rfl | member
  · exact List.nil_subset _
  · rcases List.mem_append.mp member with member | member
    · simpa [names] using Declaration.scope_subset member
    · rw [(Sequence.share_occurrences _ _ _ member).1]
      exact fun _ known => known

/-- The declarations that occur in a program are its own. -/
theorem mem_names_of_declaration {program : Program} {occurrence : Occurrence} {declaration : Declaration}
    (member : occurrence ∈ program.occurrences) (isDeclaration : occurrence.node = .declaration declaration) :
    declaration.name ∈ program.names := by
  rcases List.mem_cons.mp member with rfl | member
  · cases isDeclaration
  · rcases List.mem_append.mp member with member | member
    · exact List.mem_map_of_mem (Declaration.mem_of_occurrence member isDeclaration)
    · have part := (Sequence.share_occurrences _ _ _ member).2
      rw [isDeclaration] at part
      cases part

end Program

/-! ## Lookups -/

theorem Identifier.text_inj {first second : Identifier} (same : first.text = second.text) :
    first = second := by
  cases first
  cases second
  cases same
  rfl

/-- Where keys differ, an item is found by its key. -/
theorem find?_of_mem {Item Key : Type} [DecidableEq Key] {key : Item → Key} {items : List Item} {item : Item}
    (distinct : (items.map key).Nodup) (member : item ∈ items) :
    items.find? (fun other => key other == key item) = some item := by
  induction items with
  | nil => cases member
  | cons first rest ih =>
    obtain ⟨fresh, distinct⟩ := List.nodup_cons.mp distinct
    rcases List.mem_cons.mp member with rfl | member
    · simp
    · have different : key first ≠ key item := by
        intro same
        exact fresh (same ▸ List.mem_map_of_mem member)
      rw [List.find?_cons_of_neg (by simpa using different)]
      exact ih distinct member

theorem Configuration.texts_nodup (configuration : Configuration) :
    (configuration.components.map fun component => component.name.text).Nodup := by
  have texts := configuration.names_nodup.map fun _ _ same => Identifier.text_inj same
  rwa [List.map_map] at texts

namespace Configuration
variable {configuration : Configuration}

/-- The index has an entry for each component. -/
theorem mem_index_iff {name : String} {position : Nat} :
    (name, position) ∈ configuration.index ↔
      ∃ component, configuration.components[position]? = some component ∧ component.name.text = name := by
  rw [configuration.indexed, List.mem_zipIdx_iff_getElem?, List.getElem?_map, Option.map_eq_some_iff]

theorem mem_index_of_lookup {name : String} {position : Nat}
    (found : configuration.index.lookup name = some position) : (name, position) ∈ configuration.index := by
  obtain ⟨before, after, split, _⟩ := List.lookup_eq_some_iff.mp found
  rw [split]
  exact List.mem_append_right before List.mem_cons_self

/-- The index leads from a name to the component that has it. No other component does, so the
    entry that is met first is the only one. -/
theorem lookup_index_eq_some_iff {name : String} {position : Nat} :
    configuration.index.lookup name = some position ↔
      ∃ component, configuration.components[position]? = some component ∧ component.name.text = name := by
  rw [← mem_index_iff]
  refine ⟨mem_index_of_lookup, fun entry => ?_⟩
  cases found : configuration.index.lookup name with
  | none => exact absurd (List.lookup_eq_none_iff.mp found _ entry) (by simp)
  | some other =>
    have met := mem_index_of_lookup found
    rw [configuration.indexed, List.mem_zipIdx_iff_getElem?] at entry met
    obtain ⟨inside, _⟩ := List.getElem?_eq_some_iff.mp met
    exact congrArg some ((List.getElem?_inj inside configuration.texts_nodup).mp (met.trans entry.symm))

/-- A component is found under its name. -/
theorem component?_of_mem {component : Component} (member : component ∈ configuration.components) :
    configuration.component? component.name.text = some component := by
  obtain ⟨position, there⟩ := List.mem_iff_getElem?.mp member
  rw [Roster.component?, lookup_index_eq_some_iff.mpr ⟨component, there, rfl⟩]
  exact there

theorem mem_of_component? {name : String} {component : Component}
    (found : configuration.component? name = some component) :
    component ∈ configuration.components ∧ component.name.text = name := by
  obtain ⟨position, known, there⟩ := Option.bind_eq_some_iff.mp found
  obtain ⟨other, thereToo, named⟩ := lookup_index_eq_some_iff.mp known
  obtain rfl := Option.some.inj (thereToo.symm.trans there)
  exact ⟨List.mem_of_getElem? there, named⟩

end Configuration

theorem ComponentUse.wired_eq_right_iff {use : ComponentUse} {configuration : Configuration} :
    use.wired configuration = .right ↔
      ∃ component, configuration.component? use.name.text = some component ∧ component.type = use.type := by
  unfold ComponentUse.wired
  cases configuration.component? use.name.text with
  | none => simp
  | some component => by_cases same : component.type = use.type <;> simp [same]

/-! ## The names of a node and the component it uses -/

namespace Node

/-- A pin that the code of a node refers to is of a role that the type of its component
    has to wire. -/
theorem use_of_pin {node : Node} {component : Identifier} {role : String}
    (refers : .pin component role ∈ node.names) :
    ∃ use, node.componentUse? = some use ∧ use.name = component ∧ role ∈ use.type.requiredRoles := by
  cases node with
  | expr part =>
    cases part with
    | sensor label device port =>
      obtain ⟨needed, member, same⟩ := List.mem_map.mp refers
      cases same
      exact ⟨_, rfl, rfl, by cases device <;> exact member⟩
    | _ => simp [names, Expr.names] at refers
  | stmt part =>
    cases part with
    | tone label port frequency duration =>
      obtain ⟨needed, member, same⟩ := List.mem_map.mp refers
      cases same
      exact ⟨_, rfl, rfl, member⟩
    | motorOn label port power =>
      obtain ⟨needed, member, same⟩ := List.mem_map.mp refers
      cases same
      exact ⟨_, rfl, rfl, member⟩
    | motorStop label port =>
      obtain ⟨needed, member, same⟩ := List.mem_map.mp refers
      cases same
      exact ⟨_, rfl, rfl, member⟩
    | _ => simp [names, Stmt.names] at refers
  | declaration part => simp [names] at refers
  | task part => simp [names] at refers

/-- A display that the code of a node refers to is its component. -/
theorem use_of_display {node : Node} {component : Identifier} (refers : .display component ∈ node.names) :
    ∃ use, node.componentUse? = some use ∧ use.name = component ∧ use.type = .lcd := by
  cases node with
  | expr part => cases part <;> simp [names, Expr.names] at refers
  | stmt part =>
    cases part with
    | showText label port text =>
      obtain rfl : component = port := by simpa [names, Stmt.names] using refers
      exact ⟨_, rfl, rfl, rfl⟩
    | _ => simp [names, Stmt.names] at refers
  | declaration part => simp [names] at refers
  | task part => simp [names] at refers

/-- The code of a node refers to a variable if the node reads it, assigns it or declares
    it. -/
theorem cases_of_var {node : Node} {name : Identifier} (refers : .var name ∈ node.names) :
    (∃ label type, node = .expr (.var label name type)) ∨
      (∃ label value, node = .stmt (.assign label name value)) ∨
      ∃ declaration, node = .declaration declaration ∧ declaration.name = name := by
  cases node with
  | expr part =>
    cases part with
    | var label read type =>
      obtain rfl : name = read := by simpa [names, Expr.names] using refers
      exact .inl ⟨label, type, rfl⟩
    | _ => simp [names, Expr.names] at refers
  | stmt part =>
    cases part with
    | assign label target value =>
      obtain rfl : name = target := by simpa [names, Stmt.names] using refers
      exact .inr (.inl ⟨label, value, rfl⟩)
    | _ => simp [names, Stmt.names] at refers
  | declaration part =>
    obtain rfl : name = part.name := by simpa [names] using refers
    exact .inr (.inr ⟨part, rfl, rfl⟩)
  | task part => simp [names] at refers

end Node

/-! ## Programs without errors -/

/-- A program and a configuration in which the configuration validator has nothing to
    complain about: the ports that types need are wired, blocks find their components with the
    right type, and names are declared. -/
structure Program.Checked (program : Program) (configuration : Configuration) : Prop where
  wired : ∀ component ∈ configuration.components, ∀ role ∈ component.type.requiredRoles,
    ∃ pin, component.pin? role = some pin
  configured : ∀ occurrence ∈ program.occurrences, ∀ use, occurrence.node.componentUse? = some use →
    use.wired configuration = .right
  declared : ∀ occurrence ∈ program.occurrences, ∀ name, .var name ∈ occurrence.node.names →
    name ∈ program.names

theorem Validation.finding_mem_validate {program : Program} {configuration : Option Configuration}
    {occurrence : Occurrence} {notice : Notice} (member : occurrence ∈ program.occurrences)
    (noticed : notice ∈ Validation.notices configuration occurrence) :
    ⟨.block occurrence.node.label.position, notice⟩ ∈ program.validate configuration :=
  List.mem_flatMap.mpr ⟨occurrence, member, List.mem_map_of_mem noticed⟩

/-- A name about which there is no error is in scope. -/
theorem Validation.mem_scope_of_quiet {scope : List Identifier} {name : Identifier}
    (quiet : ∀ notice ∈ Validation.nameNotices scope name, notice.isError = false) : name ∈ scope := by
  by_cases known : name ∈ scope
  · exact known
  · simp [Validation.nameNotices, known, Notice.error, Notice.isError] at quiet

/-- A component about which there is no error is there with the right type. -/
theorem Validation.wired_of_quiet {configuration : Configuration} {use : ComponentUse}
    (quiet : ∀ notice ∈ Validation.componentNotices configuration use, notice.isError = false) :
    use.wired configuration = .right := by
  cases wired : use.wired configuration with
  | right => rfl
  | missing => simp [Validation.componentNotices, wired, Notice.error, Notice.isError] at quiet
  | wrong found => simp [Validation.componentNotices, wired, Notice.error, Notice.isError] at quiet

section
variable {platform : Platform} {program : Program} {configuration : Configuration}

/-- Without errors about ports every needed role has its pin. -/
theorem Configuration.exists_pin_of_quiet
    (quiet : ∀ finding ∈ configuration.portFindings, finding.notice.isError = false)
    {component : Component} (member : component ∈ configuration.components) {role : String}
    (needed : role ∈ component.type.requiredRoles) : ∃ pin, component.pin? role = some pin := by
  cases wired : component.pin? role with
  | some pin => exact ⟨pin, rfl⟩
  | none =>
    have missing : role ∈ component.missingRoles := by
      simp [Component.missingRoles, needed, wired]
    have finding := quiet (component.finding (Component.missingNotice role))
      (List.mem_flatMap.mpr ⟨component, member, List.mem_map_of_mem missing⟩)
    cases finding

/-- Where the configuration validator finds no error, the program is checked. -/
theorem Program.checked_of_errors_eq_zero
    (none : Worker.configurationValidator.errors platform program configuration = 0) :
    program.Checked configuration := by
  have harmless := Finding.errorCount_eq_zero_iff.mp none
  have harmlessNotice (occurrence : Occurrence) (member : occurrence ∈ program.occurrences)
      (notice : Notice) (noticed : notice ∈ Validation.notices (some configuration) occurrence) :
      notice.isError = false :=
    harmless _ (List.mem_append_right _ (Validation.finding_mem_validate member noticed))
  refine ⟨?_, ?_, ?_⟩
  · intro component member role needed
    refine configuration.exists_pin_of_quiet (fun finding found => ?_) member needed
    exact harmless finding (List.mem_append_left _ (List.mem_append_right _ found))
  · intro occurrence member use uses
    refine Validation.wired_of_quiet fun notice noticed => ?_
    refine harmlessNotice occurrence member notice (List.mem_append_left _ ?_)
    simpa [Validation.hardwareNotices, uses] using noticed
  · intro occurrence member name refers
    have quiet (notice : Notice) (noticed : notice ∈ Validation.programNotices occurrence) :
        notice.isError = false :=
      harmlessNotice occurrence member notice (List.mem_append_right _ noticed)
    rcases Node.cases_of_var refers with ⟨label, type, isVar⟩ | ⟨label, value, isAssign⟩ |
        ⟨declaration, isDeclaration, rfl⟩
    · simp only [Validation.programNotices, isVar] at quiet
      exact scope_subset_names member (Validation.mem_scope_of_quiet quiet)
    · simp only [Validation.programNotices, isAssign] at quiet
      exact scope_subset_names member (Validation.mem_scope_of_quiet quiet)
    · exact mem_names_of_declaration member isDeclaration

/-- Where every block finds its component, the hardware is the same with the configuration and
    without it. -/
theorem Program.usedHardware_eq_of_wired
    (wired : ∀ occurrence ∈ program.occurrences, ∀ use, occurrence.node.componentUse? = some use →
      use.wired configuration = .right) :
    program.usedHardware (some configuration) = program.usedHardware none := by
  have same : ((program.occurrences.map Occurrence.node).filterMap Node.componentUse?).filter
        (fun use => use.isWired (some configuration)) =
      ((program.occurrences.map Occurrence.node).filterMap Node.componentUse?).filter
        (fun use => use.isWired none) := by
    refine List.filter_congr ?_
    intro use member
    obtain ⟨node, nodeMember, uses⟩ := List.mem_filterMap.mp member
    obtain ⟨occurrence, occurs, rfl⟩ := List.mem_map.mp nodeMember
    simp [ComponentUse.isWired, wired occurrence occurs use uses]
  unfold usedHardware
  simp only [same]

/-! ## Checked programs -/

namespace Program.Checked
variable (checked : program.Checked configuration)
include checked

/-- The component of a node is there, has the type that the node needs and wires all its
    roles. -/
theorem component_of_use {occurrence : Occurrence} (member : occurrence ∈ program.occurrences)
    {use : ComponentUse} (uses : occurrence.node.componentUse? = some use) :
    ∃ component, configuration.component? use.name.text = some component ∧
      component ∈ configuration.components ∧ component.name = use.name ∧ component.type = use.type := by
  obtain ⟨component, found, type⟩ :=
    ComponentUse.wired_eq_right_iff.mp (checked.configured occurrence member use uses)
  obtain ⟨listed, named⟩ := Configuration.mem_of_component? found
  exact ⟨component, found, listed, Identifier.text_inj named, type⟩

/-- All names of the program resolve. -/
theorem resolve {occurrence : Occurrence} (member : occurrence ∈ program.occurrences) {name : Sketch.Name}
    (refers : name ∈ occurrence.node.names) : name.resolve configuration = .ok name := by
  cases name with
  | pin port role =>
    obtain ⟨use, uses, rfl, needed⟩ := Node.use_of_pin refers
    obtain ⟨component, found, listed, _, type⟩ := checked.component_of_use member uses
    obtain ⟨pin, wired⟩ := checked.wired component listed role (type ▸ needed)
    exact Sketch.resolvePin_eq_ok_iff.mpr ⟨rfl, component, pin, found, wired⟩
  | display port =>
    obtain ⟨use, uses, rfl, _⟩ := Node.use_of_display refers
    obtain ⟨component, found, _⟩ := checked.component_of_use member uses
    exact Sketch.resolveDisplay_eq_ok_iff.mpr ⟨rfl, component, found⟩
  | timer number => rfl
  | var name => rfl
  | counter index => rfl

theorem usedHardware_eq :
    program.usedHardware (some configuration) = program.usedHardware none :=
  usedHardware_eq_of_wired checked.configured

end Program.Checked
end
end BlockSketch
