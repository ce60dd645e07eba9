import BlockSketch.Proofs.Checked

/-!
Checked programs have sketches, whatever hardware the sketch is to set up
(`Program.Checked.exists_sketch`). So a workflow whose generators all come after a
configuration validator never fails to generate and never stops: it ends with a good
verdict, or with the verdict that the program is invalid.
-/
namespace BlockSketch

/-! ## Components -/

namespace Sketch
variable {configuration : Configuration} {component : Component}

theorem exists_pinDefinitions {roles : List String}
    (wired : ∀ role ∈ roles, ∃ pin, component.pin? role = some pin) :
    ∃ definitions, pinDefinitions component roles = .ok definitions := by
  induction roles with
  | nil => exact ⟨[], rfl⟩
  | cons role rest ih =>
    obtain ⟨⟨pin, first⟩, later⟩ := List.forall_mem_cons.mp wired
    obtain ⟨definitions, others⟩ := ih later
    refine ⟨.pin (.pin component.name role) pin :: definitions, ?_⟩
    simp only [pinDefinitions, first, others]
    rfl

theorem exists_componentDefinitions
    (wired : ∀ role ∈ component.type.requiredRoles, ∃ pin, component.pin? role = some pin) :
    ∃ definitions, componentDefinitions component = .ok definitions := by
  obtain ⟨pins, defined⟩ := exists_pinDefinitions wired
  unfold componentDefinitions
  simp only [defined]
  by_cases display : component.type = .lcd
  · exact ⟨_, if_pos display⟩
  · exact ⟨_, if_neg display⟩

/-- Only pins that the type needs are set up. -/
theorem pinModes_required (type : ComponentType) :
    ∀ entry ∈ pinModes type, entry.1 ∈ type.requiredRoles := by
  cases type <;> simp [pinModes, ComponentType.requiredRoles]

theorem exists_componentSetup (listed : component ∈ configuration.components)
    (wired : ∀ role ∈ component.type.requiredRoles, ∃ pin, component.pin? role = some pin) :
    ∃ commands, componentSetup configuration component = .ok commands := by
  have each : ∀ entry ∈ pinModes component.type, ∃ command, (do
      let pin ← resolvePin configuration component.name entry.1
      return Command.pinMode pin entry.2) = Except.ok command := by
    intro entry member
    obtain ⟨pin, known⟩ := wired entry.1 (pinModes_required component.type entry member)
    have resolved := resolvePin_eq_ok_iff.mpr
      ⟨rfl, component, pin, Configuration.component?_of_mem listed, known⟩
    exact ⟨_, by rw [resolved]; rfl⟩
  obtain ⟨modes, defined⟩ := Outcome.exists_mapM each
  unfold componentSetup
  simp only [defined]
  by_cases display : component.type = .lcd
  · exact ⟨_, if_pos display⟩
  · exact ⟨_, if_neg display⟩

end Sketch

/-! ## Programs -/

namespace Program

theorem mem_occurrences_of_body {program : Program} {occurrence : Occurrence}
    (member : occurrence ∈ program.body.occurrences program.names false) :
    occurrence ∈ program.occurrences :=
  List.mem_cons_of_mem _ (List.mem_append_right _ member)

theorem mem_occurrences_of_declarations {program : Program} {occurrence : Occurrence}
    (member : occurrence ∈ Declaration.occurrences [] program.task.declarations) :
    occurrence ∈ program.occurrences :=
  List.mem_cons_of_mem _ (List.mem_append_left _ member)

namespace Checked
variable {program : Program} {configuration : Configuration} (checked : program.Checked configuration)
include checked

theorem resolve_names {occurrences : List Occurrence}
    (inside : ∀ occurrence ∈ occurrences, occurrence ∈ program.occurrences) :
    ∀ name ∈ Occurrence.names occurrences, name.resolve configuration = .ok name := by
  intro name refers
  obtain ⟨occurrence, member, named⟩ := List.mem_flatMap.mp refers
  exact checked.resolve (inside occurrence member) named

/-- A checked program has a sketch, whatever hardware it is to set up. -/
theorem exists_sketch (used : UsedHardware) : ∃ sketch, program.sketch configuration used = .ok sketch := by
  obtain ⟨loop, body⟩ := Sketch.exists_of_resolveAll
    (Sketch.sequenceCode_names configuration program.names false 0 program.body)
    (checked.resolve_names fun _ => mem_occurrences_of_body)
  obtain ⟨initial, values⟩ := Sketch.exists_of_resolveAll
    (Sketch.initialCommands_names configuration [] program.task.declarations)
    (checked.resolve_names fun _ => mem_occurrences_of_declarations)
  have listed : ∀ component ∈ Sketch.usedComponents configuration used,
      component ∈ configuration.components := fun _ member => (List.mem_filter.mp member).1
  obtain ⟨definitions, defined⟩ := Outcome.exists_mapM fun component member =>
    Sketch.exists_componentDefinitions (checked.wired component (listed component member))
  obtain ⟨setup, prepared⟩ := Outcome.exists_mapM fun component member =>
    Sketch.exists_componentSetup (listed component member)
      (checked.wired component (listed component member))
  exact ⟨_, by simp only [sketch, body, values, defined, prepared]; rfl⟩

theorem exists_source (used : UsedHardware) : ∃ source, program.generate configuration used = .ok source := by
  obtain ⟨sketch, made⟩ := checked.exists_sketch used
  exact ⟨sketch.render, by rw [generate, made]; rfl⟩

end Checked
end Program

/-! ## Workflows -/

/-- Every generator comes after a configuration validator. -/
def Worker.Guarded (workers : List Worker) : Prop :=
  ∀ before after, workers = before ++ .codeGenerator :: after → .configurationValidator ∈ before

theorem Worker.Guarded.of_append {first rest : List Worker} (guarded : Guarded (first ++ rest)) :
    Guarded first := by
  intro before after split
  exact guarded before (after ++ rest) (by rw [split]; simp)

/-- Whether no generator comes before the first configuration validator. -/
def Worker.isGuarded : List Worker → Bool
  | [] => true
  | .configurationValidator :: _ => true
  | .codeGenerator :: _ => false
  | .validator :: rest => isGuarded rest
  | .typeCheck :: rest => isGuarded rest

theorem Worker.guarded_cons {worker : Worker} {rest : List Worker}
    (validates : worker ≠ .configurationValidator) (generates : worker ≠ .codeGenerator) :
    Guarded (worker :: rest) ↔ Guarded rest := by
  constructor
  · intro guarded before after split
    have member := guarded (worker :: before) after (by rw [split]; rfl)
    exact (List.mem_cons.mp member).resolve_left (Ne.symm validates)
  · intro guarded before after split
    cases before with
    | nil => exact absurd (List.cons.inj split).1 generates
    | cons first before =>
      exact List.mem_cons_of_mem _ (guarded before after (List.cons.inj split).2)

theorem Worker.guarded_iff {workers : List Worker} : Guarded workers ↔ isGuarded workers = true := by
  induction workers with
  | nil => simp [Guarded, isGuarded]
  | cons worker rest ih =>
    cases worker with
    | configurationValidator =>
      refine iff_of_true (fun before after split => ?_) rfl
      cases before with
      | nil => cases split
      | cons first before => simp [(List.cons.inj split).1]
    | codeGenerator =>
      refine iff_of_false (fun guarded => ?_) Bool.false_ne_true
      cases guarded [] rest rfl
    | validator => exact (guarded_cons (by decide) (by decide)).trans ih
    | typeCheck => exact (guarded_cons (by decide) (by decide)).trans ih

instance (workers : List Worker) : Decidable (Worker.Guarded workers) :=
  decidable_of_iff _ Worker.guarded_iff.symm

namespace Project
variable {platform : Platform} {workflow : String} {program : Program} {configuration : Configuration}
  {ran : List Worker} {project : Project}

/-- After a configuration validator, a project that is still good has a checked program. -/
theorem Traced.checked (traced : Traced platform program configuration ran project)
    (clean : project.result = .success) (validated : .configurationValidator ∈ ran) :
    program.Checked configuration :=
  Program.checked_of_errors_eq_zero (traced.errors_eq_zero clean validated)

/-- A generator that comes after a configuration validator makes a source of a project
    that is still good, whoever has found the hardware. -/
theorem Traced.exists_source (traced : Traced platform program configuration ran project)
    (clean : project.result = .success) (validated : .configurationValidator ∈ ran) :
    ∃ used source, project.products.usedHardware? = some used ∧
      project.program.generate project.configuration used = .ok source := by
  obtain ⟨used, hardware⟩ := traced.exists_hardware validated rfl
  obtain ⟨source, made⟩ := (traced.checked clean validated).exists_source used
  refine ⟨used, source, hardware, ?_⟩
  rw [traced.program_eq, traced.configuration_eq]
  exact made

/-- A guarded run is never stopped. -/
theorem exists_after?_of_guarded (guarded : Worker.Guarded ran) :
    ∃ last, ({ program, configuration } : Project).after? platform workflow ran = some last := by
  rcases run_cases platform workflow { program, configuration } ran with
    ⟨last, _, reached, _⟩ | ⟨before, rest, last, _, split, reached, lacking, _⟩
  · exact ⟨last, reached⟩
  · obtain ⟨used, hardware⟩ := (traced reached).exists_hardware (guarded before rest split) rfl
    rw [lacking] at hardware
    cases hardware

/-- The verdict of a guarded run is about the program only. -/
theorem result_of_guarded (guarded : Worker.Guarded ran)
    (reached : ({ program, configuration } : Project).after? platform workflow ran = some project) :
    project.result = .success ∨ project.result = .invalidStatements := by
  refine (after?_induction (motive := fun ran project =>
    Traced platform program configuration ran project ∧
      (Worker.Guarded ran → project.result = .success ∨ project.result = .invalidStatements))
    ⟨.start, fun _ => .inl rfl⟩ ?_ reached).2 guarded
  intro ran before worker after _ holds worked
  obtain ⟨traced, verdict⟩ := holds
  refine ⟨traced.step worked, fun guarded => ?_⟩
  have earlier := verdict guarded.of_append
  by_cases isGenerator : worker = .codeGenerator
  · cases worked.generated isGenerator with
    | stored _ _ _ _ _ result _ => exact .inl result
    | failed used error hardware clean refused _ _ =>
      -- The hardware that the generator has found is the one it is proved to succeed with.
      have validated := guarded ran [] (by rw [isGenerator])
      obtain ⟨known, source, found, made⟩ := traced.exists_source clean validated
      rw [hardware] at found
      cases found
      rw [refused] at made
      cases made
    | skipped _ _ _ result _ => exact result ▸ earlier
  · rw [(worked.checked isGenerator).1]
    rcases earlier with clean | invalid
    · rw [clean, Verdict.success_worse]
      exact Verdict.ofErrors_cases _
    · right
      rw [invalid]
      rcases Verdict.ofErrors_cases (worker.errors platform before.program before.configuration) with
        none | some
      · rw [none]
        rfl
      · rw [some]
        rfl

end Project

theorem verdict_of_guarded {program : Program} {configuration : Configuration} {platform : Platform}
    {workflow : String} {workers : List Worker} {compilation : Compilation}
    (guarded : Worker.Guarded workers) (defined : platform.workflow workflow = .ok workers)
    (compiled : compile program configuration platform workflow = .ok compilation) :
    compilation.report.result = .success ∨ compilation.report.result = .invalidStatements := by
  obtain ⟨last, reached⟩ := Project.exists_after?_of_guarded guarded
  obtain ⟨log, ended⟩ := compile_eq_of_after? defined reached
  obtain rfl := Except.ok.inj (compiled.symm.trans ended)
  exact Project.result_of_guarded guarded reached

/-- A workflow in which every generator comes after a configuration validator gives a
    verdict on the program: it is never stopped, and whenever the turn of a generator comes
    while the verdict is still good, there is a source, whoever has found the hardware. -/
theorem guarded_workflow_generates (program : Program) (configuration : Configuration)
    {platform : Platform} {workflow : String} {workers : List Worker}
    (defined : platform.workflow workflow = .ok workers) (guarded : Worker.Guarded workers) :
    ∃ compilation, compile program configuration platform workflow = .ok compilation ∧
      compilation.report.result ≠ .generationError ∧ compilation.report.result ≠ .workflowError ∧
      ∀ before after, workers = before ++ .codeGenerator :: after →
        ∃ project, ({ program, configuration } : Project).after? platform workflow before = some project ∧
          (project.result = .success → ∃ used source, project.products.usedHardware? = some used ∧
            project.program.generate project.configuration used = .ok source) := by
  obtain ⟨compilation, compiled⟩ :
      ∃ compilation, compile program configuration platform workflow = .ok compilation :=
    ⟨_, compile_eq defined⟩
  have verdict := verdict_of_guarded guarded defined compiled
  refine ⟨compilation, compiled, ?_, ?_, ?_⟩
  · rcases verdict with good | invalid
    · rw [good]; decide
    · rw [invalid]; decide
  · rcases verdict with good | invalid
    · rw [good]; decide
    · rw [invalid]; decide
  · intro before after split
    subst split
    obtain ⟨project, turn⟩ := Project.exists_after?_of_guarded guarded.of_append
    refine ⟨project, turn, fun clean => ?_⟩
    exact (Project.traced turn).exists_source clean (guarded before after rfl)

/-- A distance sensor and a display. -/
def Configuration.sonar : Configuration where
  robot := "arduino"
  components := [
    { name := ⟨"eye", by decide⟩, type := .ultrasonic,
      ports := [⟨"TRIG", ⟨"7", by decide⟩⟩, ⟨"ECHO", ⟨"8", by decide⟩⟩],
      properties := none, roles_nodup := by decide },
    { name := ⟨"screen", by decide⟩, type := .lcd,
      ports := [⟨"RS", ⟨"12", by decide⟩⟩, ⟨"E", ⟨"11", by decide⟩⟩, ⟨"D4", ⟨"5", by decide⟩⟩,
        ⟨"D5", ⟨"4", by decide⟩⟩, ⟨"D6", ⟨"3", by decide⟩⟩, ⟨"D7", ⟨"2", by decide⟩⟩],
      properties := none, roles_nodup := by decide }]
  index := [("eye", 0), ("screen", 1)]
  names_nodup := by decide
  indexed := rfl

/-- Shows the distance and sends the time. -/
def Program.sonar : Program where
  task := ⟨⟨[0], {}⟩,
    [⟨⟨[0, 0], {}⟩, ⟨"near", by decide⟩, .number, .timer ⟨[0, 0, 0], {}⟩ ⟨1, by decide⟩⟩]⟩
  body := .mk ⟨[1], {}⟩ [
    .assign ⟨[0, 1], {}⟩ ⟨"near", by decide⟩ (.sensor ⟨[0, 0, 1], {}⟩ .ultrasonic ⟨"eye", by decide⟩),
    .showText ⟨[1, 1], {}⟩ ⟨"screen", by decide⟩ (.var ⟨[0, 1, 1], {}⟩ ⟨"near", by decide⟩ .number),
    .serialWrite ⟨[2, 1], {}⟩ (.timer ⟨[0, 2, 1], {}⟩ ⟨2, by decide⟩)]

/-- An Arduino Uno with one workflow of its own. -/
def Platform.withWorkflow (workflow : String) (workers : List Worker) : Platform :=
  { arduinoUno with workflows := [(workflow, workers)] }

/-- The second generator works with the hardware of the plain validator. -/
theorem revalidated_workflow_generates :
    ∃ compilation,
      compile .sonar .sonar
          (.withWorkflow "twice" [.configurationValidator, .codeGenerator, .validator, .codeGenerator])
          "twice" = .ok compilation ∧
      compilation.report.result ≠ .generationError ∧ compilation.report.result ≠ .workflowError ∧
      ∀ before after,
        [.configurationValidator, .codeGenerator, .validator, .codeGenerator] =
          before ++ .codeGenerator :: after →
        ∃ project,
          ({ program := .sonar, configuration := .sonar } : Project).after?
              (.withWorkflow "twice"
                [.configurationValidator, .codeGenerator, .validator, .codeGenerator])
              "twice" before = some project ∧
          (project.result = .success → ∃ used source, project.products.usedHardware? = some used ∧
            project.program.generate project.configuration used = .ok source) :=
  guarded_workflow_generates .sonar .sonar rfl (by decide)

end BlockSketch
