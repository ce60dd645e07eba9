import BlockSketch.Proofs.FirstError
import BlockSketch.Proofs.Usage

/-!
What a sketch requires of the configuration, and what happens if the configuration falls short
of it. Requirements are listed in the order in which the sketch is made: those of the body, of
the initial values and of the components that are set up. Generation fails exactly if one of
them is not met, and the error is that of the first (`generation_fails_at_first_shortfall`).
-/
namespace BlockSketch

/-! ## Requirements -/

/-- A component has to be there, or it has to be there and to wire a role. -/
inductive Sketch.Requirement
  | present (component : Identifier)
  | wired (component : Identifier) (role : String)

/-- The configuration falls short of the requirement, which gives this error. -/
inductive Sketch.Requirement.Fails (configuration : Configuration) : Requirement → SketchError → Prop
  | absent {name : Identifier} (unknown : ∀ component ∈ configuration.components, component.name ≠ name) :
    Fails configuration (.present name) (.missingComponent name.text)
  | unconfigured {name : Identifier} {role : String}
    (unknown : ∀ component ∈ configuration.components, component.name ≠ name) :
    Fails configuration (.wired name role) (.missingComponent name.text)
  | unwired {name : Identifier} {role : String} {component : Component}
    (known : component ∈ configuration.components) (named : component.name = name)
    (unwired : ∀ port ∈ component.ports, port.role ≠ role) :
    Fails configuration (.wired name role) (.missingPort name.text role)

open Sketch (Requirement)

/-- What the code of a node itself requires, that of its children apart. A text is shown on
    whatever component has the name. -/
def Node.requirements : Node → List Requirement
  | .expr (.sensor _ .key port) => [.wired port "PIN1"]
  | .expr (.sensor _ .ultrasonic port) => [.wired port "TRIG", .wired port "ECHO"]
  | .expr (.sensor _ .light port) => [.wired port "OUTPUT"]
  | .expr (.sensor _ .temperature port) => [.wired port "OUTPUT"]
  | .stmt (.tone _ port _ _) => [.wired port "+"]
  | .stmt (.motorOn _ port _) => [.wired port "IN1", .wired port "IN2"]
  | .stmt (.motorStop _ port) => [.wired port "IN1", .wired port "IN2"]
  | .stmt (.showText _ port _) => [.present port]
  | _ => []

/-- What nodes require, in the order of the nodes. -/
def Occurrence.requirements (occurrences : List Occurrence) : List Requirement :=
  occurrences.flatMap fun occurrence => occurrence.node.requirements

/-- A component that is set up has to wire the roles of its type. -/
def Component.requirements (component : Component) : List Requirement :=
  component.type.requiredRoles.map (.wired component.name)

/-- All that a sketch requires: for the body in the order of its nodes, then for the initial
    values, then for the components that it sets up. -/
def Program.requirements (program : Program) (configuration : Configuration) (used : UsedHardware) :
    List Requirement :=
  Occurrence.requirements (program.body.occurrences program.names false) ++
    (Occurrence.requirements (Declaration.occurrences [] program.task.declarations) ++
      (Sketch.usedComponents configuration used).flatMap Component.requirements)

/-! ## One requirement -/

theorem Component.pin?_eq_none_iff {component : Component} {role : String} :
    component.pin? role = none ↔ ∀ port ∈ component.ports, port.role ≠ role := by
  simp [pin?]

namespace Sketch.Requirement
variable {configuration : Configuration} {requirement : Requirement} {error : SketchError}

/-- The error, if the configuration falls short of the requirement. -/
def errors (configuration : Configuration) : Requirement → List SketchError
  | present name =>
    match configuration.component? name.text with
    | none => [.missingComponent name.text]
    | some _ => []
  | wired name role =>
    match configuration.component? name.text with
    | none => [.missingComponent name.text]
    | some component =>
      match component.pin? role with
      | none => [.missingPort name.text role]
      | some _ => []

theorem head?_errors_of_fails (fails : requirement.Fails configuration error) :
    (requirement.errors configuration).head? = some error := by
  cases fails with
  | absent unknown => simp [errors, Configuration.component?_eq_none_iff.mpr unknown]
  | unconfigured unknown => simp [errors, Configuration.component?_eq_none_iff.mpr unknown]
  | unwired known named unwired =>
    simp [errors, Configuration.component?_eq_some_iff.mpr ⟨known, named⟩, Component.pin?_eq_none_iff.mpr unwired]

theorem fails_of_mem_errors (member : error ∈ requirement.errors configuration) :
    requirement.Fails configuration error := by
  cases requirement with
  | present name =>
    cases found : configuration.component? name.text with
    | none =>
      simp only [errors, found, List.mem_singleton] at member
      exact member ▸ .absent (Configuration.component?_eq_none_iff.mp found)
    | some component => simp [errors, found] at member
  | wired name role =>
    cases found : configuration.component? name.text with
    | none =>
      simp only [errors, found, List.mem_singleton] at member
      exact member ▸ .unconfigured (Configuration.component?_eq_none_iff.mp found)
    | some component =>
      obtain ⟨known, named⟩ := Configuration.component?_eq_some_iff.mp found
      cases wiring : component.pin? role with
      | none =>
        simp only [errors, found, wiring, List.mem_singleton] at member
        exact member ▸ .unwired known named (Component.pin?_eq_none_iff.mp wiring)
      | some pin => simp [errors, found, wiring] at member

theorem head?_errors_eq_some_iff :
    (requirement.errors configuration).head? = some error ↔ requirement.Fails configuration error :=
  ⟨fun first => fails_of_mem_errors (List.mem_of_head? first), head?_errors_of_fails⟩

theorem errors_eq_nil_iff :
    requirement.errors configuration = [] ↔ ∀ error, ¬requirement.Fails configuration error := by
  simp only [← head?_errors_eq_some_iff]
  cases requirement.errors configuration with
  | nil => simp
  | cons error rest => simp

theorem exists_pin_of_errors {component : Component} {role : String}
    (listed : component ∈ configuration.components)
    (met : (wired component.name role).errors configuration = []) : ∃ pin, component.pin? role = some pin := by
  cases wiring : component.pin? role with
  | none => simp [errors, Configuration.component?_of_mem listed, wiring] at met
  | some pin => exact ⟨pin, rfl⟩

end Sketch.Requirement

/-! ## Code reports what is not met -/

namespace Sketch
variable {configuration : Configuration}

/-- What it takes to resolve a name. -/
def Name.requirements : Name → List Requirement
  | pin component role => [.wired component role]
  | display component => [.present component]
  | _ => []

theorem Name.resolve_reports (configuration : Configuration) (name : Name) :
    Outcome.Reports (name.resolve configuration) (name.requirements.flatMap (Requirement.errors configuration)) := by
  cases name with
  | pin component role =>
    simp only [Name.requirements, List.flatMap_singleton, Name.resolve_pin, resolvePin, Requirement.errors]
    cases configuration.component? component.text with
    | none => exact Outcome.reports_error _ []
    | some found =>
      dsimp only
      cases found.pin? role with
      | none => exact Outcome.reports_error _ []
      | some pin => exact Outcome.reports_ok _
  | display component =>
    simp only [Name.requirements, List.flatMap_singleton, Name.resolve_display, resolveDisplay, Requirement.errors]
    cases configuration.component? component.text with
    | none => exact Outcome.reports_error _ []
    | some found => exact Outcome.reports_ok _
  | _ => exact Outcome.reports_ok _

end Sketch

theorem Node.requirements_names (node : Node) :
    node.names.flatMap Sketch.Name.requirements = node.requirements := by
  cases node with
  | expr part =>
    cases part with
    | sensor label device port => cases device <;> rfl
    | _ => rfl
  | stmt part => cases part <;> rfl
  | _ => rfl

theorem Occurrence.requirements_names (occurrences : List Occurrence) :
    (Occurrence.names occurrences).flatMap Sketch.Name.requirements = Occurrence.requirements occurrences := by
  simp only [Occurrence.names, Occurrence.requirements, List.flatMap_assoc, Node.requirements_names]

namespace Sketch
variable {configuration : Configuration}

/-- What is made by resolving the names of nodes reports what the nodes require. -/
theorem reports_of_resolveAll {α : Type} {made : Except SketchError α} {named : α → List Name}
    {occurrences : List Occurrence}
    (resolving : named <$> made = resolveAll configuration (Occurrence.names occurrences)) :
    Outcome.Reports made ((Occurrence.requirements occurrences).flatMap (Requirement.errors configuration)) := by
  rw [← Outcome.Reports.map_iff (f := named)]
  change Outcome.Reports (named <$> made) _
  rw [resolving, ← Occurrence.requirements_names, List.flatMap_assoc]
  exact .mapM fun name _ => name.resolve_reports configuration

theorem pinDefinitions_reports {component : Component} (listed : component ∈ configuration.components)
    (roles : List String) :
    Outcome.Reports (pinDefinitions component roles)
      ((roles.map (.wired component.name)).flatMap (Requirement.errors configuration)) := by
  have found := Configuration.component?_of_mem listed
  induction roles with
  | nil => exact Outcome.reports_ok []
  | cons role rest ih =>
    simp only [List.map_cons, List.flatMap_cons, pinDefinitions, Requirement.errors, found]
    cases component.pin? role with
    | none => exact Outcome.reports_error _ _
    | some pin => exact ih.bind_pure _

theorem componentDefinitions_reports {component : Component} (listed : component ∈ configuration.components) :
    Outcome.Reports (componentDefinitions component)
      (component.requirements.flatMap (Requirement.errors configuration)) := by
  refine (pinDefinitions_reports listed component.type.requiredRoles).bind_ok fun pins _ => ?_
  by_cases display : component.type = .lcd
  · exact ⟨_, if_pos display⟩
  · exact ⟨_, if_neg display⟩

/-- Once its pins are defined a component can be set up. -/
theorem exists_setup {used : UsedHardware} {definitions : List (List Definition)}
    (defined : (usedComponents configuration used).mapM componentDefinitions = .ok definitions) :
    ∃ setup, (usedComponents configuration used).mapM (componentSetup configuration) = .ok setup := by
  refine Outcome.exists_mapM fun component member => ?_
  have listed : component ∈ configuration.components := List.mem_of_mem_filter member
  refine exists_componentSetup listed fun role needed => ?_
  obtain ⟨own, _, done⟩ := Outcome.exists_value_of_mem defined member
  have met := (componentDefinitions_reports listed).exists_ok_iff.mp ⟨own, done⟩
  exact Requirement.exists_pin_of_errors listed
    (List.flatMap_eq_nil_iff.mp met _ (List.mem_map_of_mem needed))

end Sketch

namespace Program
variable (program : Program) (configuration : Configuration) (used : UsedHardware)

theorem sketch_reports :
    Outcome.Reports (program.sketch configuration used)
      ((program.requirements configuration used).flatMap (Requirement.errors configuration)) := by
  have body := Sketch.reports_of_resolveAll
    (Sketch.sequenceCode_names configuration program.names false 0 program.body)
  have initial := Sketch.reports_of_resolveAll
    (Sketch.initialCommands_names configuration [] program.task.declarations)
  have definitions : Outcome.Reports ((Sketch.usedComponents configuration used).mapM Sketch.componentDefinitions)
      (((Sketch.usedComponents configuration used).flatMap Component.requirements).flatMap
        (Requirement.errors configuration)) := by
    rw [List.flatMap_assoc]
    exact .mapM fun component member => Sketch.componentDefinitions_reports (List.mem_of_mem_filter member)
  unfold Program.requirements
  rw [List.flatMap_append, List.flatMap_append]
  refine body.bind fun loop _ => initial.bind fun commands _ => definitions.bind_ok fun made defined => ?_
  obtain ⟨setup, sets⟩ := Sketch.exists_setup defined
  rw [sets]
  exact ⟨_, rfl⟩

theorem generate_reports :
    Outcome.Reports (program.generate configuration used)
      ((program.requirements configuration used).flatMap (Requirement.errors configuration)) :=
  Outcome.Reports.map_iff.mpr (program.sketch_reports configuration used)

variable {program configuration used}

theorem mem_requirements_iff {requirement : Requirement} :
    requirement ∈ program.requirements configuration used ↔
      (∃ node, program.Holds node ∧ requirement ∈ node.requirements) ∨
        ∃ component ∈ configuration.components,
          component.name.text ∈ used.components ∧ requirement ∈ component.requirements := by
  rw [← exists_occurrence_iff (requirement ∈ ·.requirements) (fun _ => List.not_mem_nil) (fun _ => List.not_mem_nil)]
  simp only [requirements, Occurrence.requirements, Sketch.usedComponents, UsedHardware.uses, occurrences,
    Node.requirements, List.mem_append, List.mem_flatMap, List.mem_filter, List.contains_iff_mem,
    List.exists_mem_cons_iff, List.not_mem_nil, false_or, or_and_right, exists_or, and_assoc, or_assoc,
    or_left_comm]

theorem exists_generate_error_iff :
    (∃ error, program.generate configuration used = .error error) ↔
      ∃ requirement ∈ program.requirements configuration used, ∃ error, requirement.Fails configuration error := by
  rw [(program.generate_reports configuration used).exists_error_iff, ne_eq, List.flatMap_eq_nil_iff]
  simp only [Requirement.errors_eq_nil_iff, not_forall, not_not, exists_prop]

end Program

/-- A component that is there falls short only by its roles. -/
theorem Component.exists_fails_iff {component : Component} {configuration : Configuration}
    (listed : component ∈ configuration.components) :
    (∃ requirement ∈ component.requirements, ∃ error, requirement.Fails configuration error) ↔
      ∃ role ∈ component.type.requiredRoles, ∀ port ∈ component.ports, port.role ≠ role := by
  constructor
  · rintro ⟨requirement, member, error, fails⟩
    obtain ⟨role, needed, rfl⟩ := List.mem_map.mp member
    refine ⟨role, needed, ?_⟩
    cases fails with
    | unconfigured unknown => exact absurd rfl (unknown component listed)
    | unwired known named unwired =>
      have found := Configuration.component?_eq_some_iff.mpr ⟨known, named⟩
      rw [Configuration.component?_of_mem listed] at found
      cases found
      exact unwired
  · rintro ⟨role, needed, unwired⟩
    exact ⟨_, List.mem_map_of_mem needed, _, .unwired listed rfl unwired⟩

/-- Generation fails with the error of the first requirement that the configuration falls short
    of. So it fails exactly if a node of the body or of an initial value asks for a component
    that is not there or for a role that is not wired, or if a component that is to be set up
    does not wire a role of its type; to set up the pins cannot fail once they are defined. -/
theorem generation_fails_at_first_shortfall (program : Program) (configuration : Configuration)
    (used : UsedHardware) :
    (∀ error, program.generate configuration used = .error error ↔
      ∃ before requirement after, program.requirements configuration used = before ++ requirement :: after ∧
        (∀ earlier ∈ before, ∀ other, ¬earlier.Fails configuration other) ∧
        requirement.Fails configuration error) ∧
    ((∃ error, program.generate configuration used = .error error) ↔
      (∃ node, program.Holds node ∧
        ∃ requirement ∈ node.requirements, ∃ error, requirement.Fails configuration error) ∨
      ∃ component ∈ configuration.components, component.name.text ∈ used.components ∧
        ∃ role ∈ component.type.requiredRoles, ∀ port ∈ component.ports, port.role ≠ role) ∧
    ∀ definitions,
      (Sketch.usedComponents configuration used).mapM Sketch.componentDefinitions = .ok definitions →
        ∃ setup,
          (Sketch.usedComponents configuration used).mapM (Sketch.componentSetup configuration) = .ok setup := by
  have reports := program.generate_reports configuration used
  refine ⟨fun error => ?_, ?_, fun definitions => Sketch.exists_setup⟩
  · rw [reports, Outcome.head?_flatMap_eq_some_iff]
    simp only [Requirement.errors_eq_nil_iff, Requirement.head?_errors_eq_some_iff]
  · rw [Program.exists_generate_error_iff]
    constructor
    · rintro ⟨requirement, member, error, fails⟩
      rcases Program.mem_requirements_iff.mp member with
        ⟨node, inside, needed⟩ | ⟨component, listed, isUsed, needed⟩
      · exact .inl ⟨node, inside, requirement, needed, error, fails⟩
      · exact .inr ⟨component, listed, isUsed,
          (Component.exists_fails_iff listed).mp ⟨requirement, needed, error, fails⟩⟩
    · rintro (⟨node, inside, requirement, needed, fails⟩ | ⟨component, listed, isUsed, unwired⟩)
      · exact ⟨requirement, Program.mem_requirements_iff.mpr (.inl ⟨node, inside, needed⟩), fails⟩
      · obtain ⟨requirement, needed, fails⟩ := (Component.exists_fails_iff listed).mpr unwired
        exact ⟨requirement, Program.mem_requirements_iff.mpr (.inr ⟨component, listed, isUsed, needed⟩), fails⟩

/-- A horn, and an ear of which one role is not wired. -/
def Configuration.halfDeaf : Configuration where
  robot := "arduino"
  components := [
    { name := ⟨"ear", by decide⟩, type := .ultrasonic, ports := [⟨"TRIG", ⟨"A4", by decide⟩⟩],
      properties := none, roles_nodup := by decide },
    { name := ⟨"horn", by decide⟩, type := .buzzer, ports := [⟨"+", ⟨"A5", by decide⟩⟩],
      properties := none, roles_nodup := by decide }]
  index := [("ear", 0), ("horn", 1)]
  names_nodup := by decide
  indexed := rfl

/-- The initial value reads a key that is not there, and the body sounds the horn with what
    the ear hears. -/
def Program.echo : Program where
  task := ⟨⟨[0], {}⟩,
    [⟨⟨[0, 0], {}⟩, ⟨"pressed", by decide⟩, .boolean, .sensor ⟨[0, 0, 0], {}⟩ .key ⟨"nothing", by decide⟩⟩]⟩
  body := .mk ⟨[1], {}⟩ [
    .tone ⟨[0, 1], {}⟩ ⟨"horn", by decide⟩ (.sensor ⟨[0, 0, 1], {}⟩ .ultrasonic ⟨"ear", by decide⟩)
      (.text ⟨[1, 0, 1], {}⟩ "")]

/-- The pin of the horn comes before those of the ear, and the body before the initial value.
    The horn alone can be set up. -/
theorem echo_fails_at_ear :
    Program.echo.generate .halfDeaf ⟨["ear", "horn"], [], false, false⟩ = .error (.missingPort "ear" "ECHO") ∧
      ∃ setup, (Sketch.usedComponents .halfDeaf ⟨["horn"], [], false, false⟩).mapM
        (Sketch.componentSetup .halfDeaf) = .ok setup := by
  constructor
  · refine ((generation_fails_at_first_shortfall .echo .halfDeaf ⟨["ear", "horn"], [], false, false⟩).1 _).mpr
      ⟨[.wired ⟨"horn", by decide⟩ "+", .wired ⟨"ear", by decide⟩ "TRIG"], .wired ⟨"ear", by decide⟩ "ECHO",
        _, rfl, ?_, Requirement.head?_errors_eq_some_iff.mp rfl⟩
    intro earlier member
    refine Requirement.errors_eq_nil_iff.mp ?_
    rcases List.mem_pair.mp member with rfl | rfl <;> rfl
  · exact (generation_fails_at_first_shortfall .echo .halfDeaf ⟨["horn"], [], false, false⟩).2.2 _ rfl

end BlockSketch
