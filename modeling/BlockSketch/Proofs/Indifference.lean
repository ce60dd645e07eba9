import BlockSketch.Proofs.Outcome
import BlockSketch.Proofs.Unannotated
import BlockSketch.Report

/-!
What the editor keeps with a block has no influence on what becomes of the program. Each
worker does without annotations what it does with them (`Project.execute_bare`), and so does a
run. Its report is the same but for the identities of blocks (`Project.report_bare`). So drafts
that differ in annotations only are built or rejected alike, and compiled alike.
-/
namespace BlockSketch

/-! ## Runs -/

def Product.bare : Product → Product
  | .usedHardware used => .usedHardware used
  | .typeCheck summary => .typeCheck summary.bare

namespace Products

def bare (products : Products) : Products :=
  products.map Product.bare

theorem insert_bare (products : Products) (product : Product) :
    (products.insert product).bare = products.bare.insert product.bare := by
  have kind (other : Product) : other.bare.kind = other.kind := by cases other <;> rfl
  have has : products.bare.has product.bare.kind = products.has product.kind := by
    simp only [has, bare, List.any_map, Function.comp_def, kind]
  unfold insert
  rw [has]
  split
  · simp only [bare, List.map_map, Function.comp_def, kind, apply_ite Product.bare]
  · simp only [bare, List.map_append, List.map_cons, List.map_nil]

theorem usedHardware?_bare (products : Products) : products.bare.usedHardware? = products.usedHardware? := by
  simp only [usedHardware?, bare, List.findSome?_map]
  congr 1
  funext product
  cases product <;> rfl

end Products

namespace Project
open Outcome (Image)

/-- The project with no annotations in its program, its configuration and its products. -/
def bare (project : Project) : Project :=
  { project with
    program := project.program.bare
    configuration := project.configuration.bare
    products := project.products.bare }

theorem record_bare (project : Project) (events : List Event) :
    (project.record events).bare = project.bare.record events :=
  rfl

theorem addFindings_bare (project : Project) (findings : List Finding) :
    (project.addFindings findings).bare = project.bare.addFindings findings := by
  unfold addFindings addErrors
  split <;> rfl

theorem addProduct_bare (project : Project) (product : Product) :
    (project.addProduct product).bare = project.bare.addProduct product.bare := by
  simp only [addProduct, bare, Products.insert_bare]

theorem validateProgram_bare (project : Project) (configuration : Option Configuration) :
    (project.validateProgram configuration).bare =
      project.bare.validateProgram (configuration.map Configuration.bare) := by
  unfold validateProgram
  rw [addProduct_bare, addFindings_bare]
  simp only [bare, Program.validate_bare, Program.usedHardware_bare]
  rfl

theorem validateConfiguration_bare (project : Project) (platform : Platform) :
    (project.validateConfiguration platform).bare = project.bare.validateConfiguration platform := by
  have valid := project.configuration.validate_bare platform
  have events := project.configuration.events_bare platform
  simp only [validateConfiguration, record_bare, addFindings_bare, ← valid, ← events]
  rfl

theorem checkTypes_bare (project : Project) : project.checkTypes.bare = project.bare.checkTypes := by
  have types : project.bare.program.checkTypes = project.program.checkTypes.bare :=
    project.program.checkTypes_bare
  simp only [checkTypes, addProduct_bare, addFindings_bare, record_bare, types]
  simp only [Typing.Summary.bare, List.length_map, List.map_map]
  rfl

theorem generate_bare (project : Project) (used : UsedHardware) :
    (project.generate used).bare = project.bare.generate used := by
  have generated : project.bare.program.generate project.bare.configuration used =
      project.program.generate project.configuration used :=
    project.program.generate_bare project.configuration used
  have result : project.bare.result = project.result := rfl
  simp only [generate, generated, result]
  cases project.program.generate project.configuration used <;> split <;> rfl

/-- Each worker does without annotations what it does with them. -/
theorem execute_bare (platform : Platform) (project : Project) (worker : Worker) :
    project.bare.execute platform worker = (project.execute platform worker).map bare := by
  cases worker with
  | validator => exact congrArg Except.ok (project.validateProgram_bare none).symm
  | configurationValidator =>
    simp only [execute, Except.map, validateProgram_bare, validateConfiguration_bare]
    rfl
  | typeCheck => exact congrArg Except.ok project.checkTypes_bare.symm
  | codeGenerator =>
    simp only [execute]
    have hardware : project.bare.products.usedHardware? = project.products.usedHardware? :=
      project.products.usedHardware?_bare
    rw [hardware]
    cases project.products.usedHardware? with
    | none => rfl
    | some used => exact congrArg Except.ok (project.generate_bare used).symm

theorem run_bare (platform : Platform) (workflow : String) (project : Project) (workers : List Worker) :
    project.bare.run platform workflow workers = (project.run platform workflow workers).map bare id := by
  induction workers generalizing project with
  | nil => rfl
  | cons worker rest ih =>
    have executed := (project.record [.workerStarted workflow worker]).execute_bare platform worker
    rw [record_bare] at executed
    simp only [run, executed]
    cases (project.record [.workerStarted workflow worker]).execute platform worker with
    | error failure => rfl
    | ok done => exact ih (done.record [.workerFinished workflow worker done.errorCount])

end Project

/-! ## Reports -/

/-- The origin without the identity that its block has in the editor. -/
def Origin.bare : Origin → Origin
  | .block kind _ => .block kind none
  | .component name => .component name

/-- The diagnostic without the identity of its block. All else that it says is kept. -/
def Diagnostic.bare (diagnostic : Diagnostic) : Diagnostic :=
  { diagnostic with origin := diagnostic.origin.bare }

/-- The report without the identities of blocks. -/
def Report.bare (report : Report) : Report :=
  { report with diagnostics := report.diagnostics.map Diagnostic.bare }

theorem Node.diagnostics_bare (findings : List Finding) (node : Node) :
    node.bare.diagnostics findings = (node.diagnostics findings).map Diagnostic.bare := by
  simp only [diagnostics, origin, kind_bare, label_bare, List.map_map]
  rfl

theorem Program.diagnostics_bare (program : Program) (findings : List Finding) :
    program.bare.diagnostics findings = (program.diagnostics findings).map Diagnostic.bare := by
  simp only [diagnostics, occurrences_bare, List.flatMap_map, List.map_flatMap, ← Node.diagnostics_bare]
  rfl

theorem Configuration.diagnostics_bare (configuration : Configuration) (findings : List Finding) :
    configuration.bare.diagnostics findings = (configuration.diagnostics findings).map Diagnostic.bare := by
  simp only [diagnostics, components_bare, List.flatMap_map, List.map_flatMap, List.map_map]
  rfl

theorem Project.report_bare (project : Project) (failure : Option WorkerFailure) :
    project.bare.report failure = (project.report failure).bare := by
  simp only [report, Report.bare, diagnostics, List.map_append, ← Program.diagnostics_bare,
    ← Configuration.diagnostics_bare]
  rfl

def Compilation.bare (compilation : Compilation) : Compilation :=
  { compilation with project := compilation.project.bare }

theorem compile_bare (program : Program) (configuration : Configuration) (platform : Platform)
    (workflow : String) :
    compile program.bare configuration.bare platform workflow =
      (compile program configuration platform workflow).map Compilation.bare := by
  refine Outcome.Image.bind_same _ fun workers => ?_
  have ran := Project.run_bare platform workflow { program, configuration } workers
  cases ended : Project.run platform workflow { program, configuration } workers with
  | mk project failure =>
    rw [ended] at ran
    exact congrArg (fun last => Except.ok (Compilation.mk last.1 last.2)) ran

/-- Programs and configurations that differ in annotations only are compiled alike. -/
theorem reports_bare_eq {first second : Program} {wired other : Configuration}
    (samePrograms : first.bare = second.bare) (sameConfigurations : wired.bare = other.bare)
    (platform : Platform) (workflow : String) :
    (compile first wired platform workflow).map (fun compilation => compilation.report.bare) =
      (compile second other platform workflow).map fun compilation => compilation.report.bare := by
  have reports (program : Program) (configuration : Configuration) :
      (compile program configuration platform workflow).map (fun compilation => compilation.report.bare) =
        (compile program.bare configuration.bare platform workflow).map Compilation.report := by
    rw [compile_bare]
    cases compile program configuration platform workflow with
    | error unknown => rfl
    | ok compilation => exact congrArg Except.ok (compilation.project.report_bare compilation.failure).symm
  rw [reports, reports, samePrograms, sameConfigurations]

/-- Drafts that differ only in what the editor keeps with their blocks, variables and components
    are rejected for the same reason or built both, and then every workflow on every platform
    reports the same on both, but for the identities of blocks. -/
theorem annotations_never_matter {first second : Draft.Program} {wiring other : Draft.Configuration}
    (samePrograms : first.bare = second.bare) (sameWirings : wiring.bare = other.bare) :
    ((∃ error, first.build = .error error ∧ second.build = .error error) ∨
        ∃ program twin, first.build = .ok program ∧ second.build = .ok twin) ∧
      ((∃ error, wiring.build = .error error ∧ other.build = .error error) ∨
        ∃ configuration twin, wiring.build = .ok configuration ∧ other.build = .ok twin) ∧
      ∀ program twin configuration rewired, first.build = .ok program →
        second.build = .ok twin → wiring.build = .ok configuration → other.build = .ok rewired →
        ∀ platform workflow,
          (compile program configuration platform workflow).map (fun compilation => compilation.report.bare) =
            (compile twin rewired platform workflow).map
              fun compilation => compilation.report.bare := by
  have programs : first.build.map Program.bare = second.build.map Program.bare := by
    rw [← first.build_bare, ← second.build_bare, samePrograms]
  have configurations : wiring.build.map Configuration.bare = other.build.map Configuration.bare := by
    rw [← wiring.build_bare, ← other.build_bare, sameWirings]
  refine ⟨Outcome.error_or_ok_of_map_eq programs, Outcome.error_or_ok_of_map_eq configurations, ?_⟩
  intro program twin configuration rewired built builtToo wired wiredToo platform workflow
  rw [built, builtToo] at programs
  rw [wired, wiredToo] at configurations
  exact reports_bare_eq (Except.ok.inj programs) (Except.ok.inj configurations) platform workflow

/-- Says something that is not there, in blocks that are switched off and commented on. -/
def Draft.Program.scribbled : Draft.Program where
  declarations := [⟨{ comment := some { text := "how long" } }, "pause", some "NUMBER",
    .text { properties := some { Properties.fresh "text" "t1" with shadow := true } } "long"⟩]
  body := [
    .serialWrite { properties := some { Properties.fresh "say" "s1" with disabled := true } }
      (.var { properties := some (Properties.fresh "get" "v1") } "word" (some "STRING")),
    .motorOn { comment := some { text := "unused", pinned := true } } "axle"
      (.var { properties := some (Properties.fresh "get" "v2") } "pause" (some "NUMBER"))]

def Draft.Configuration.scribbled : Draft.Configuration where
  robot := "arduino"
  components := [⟨"axle", "MOTOR", [("IN1", "33")], some (Properties.fresh "motor" "m1")⟩]

/-- The reports differ, as blocks have lost their identities, but in nothing else. -/
theorem scribbled_reports_alike :
    ∃ program plain configuration bald, Draft.Program.scribbled.build = .ok program ∧
      Draft.Program.scribbled.bare.build = .ok plain ∧
      Draft.Configuration.scribbled.build = .ok configuration ∧
      Draft.Configuration.scribbled.bare.build = .ok bald ∧
      (compile program configuration .arduinoUno "compile").toOption.map Compilation.report ≠
        (compile plain bald .arduinoUno "compile").toOption.map Compilation.report ∧
      (compile program configuration .arduinoUno "compile").map (fun compilation => compilation.report.bare) =
        (compile plain bald .arduinoUno "compile").map fun compilation => compilation.report.bare := by
  have differ : (Draft.Program.scribbled.build.toOption.bind fun program =>
      Draft.Program.scribbled.bare.build.toOption.bind fun plain =>
        Draft.Configuration.scribbled.build.toOption.bind fun configuration =>
          Draft.Configuration.scribbled.bare.build.toOption.map fun bald =>
            decide ((compile program configuration .arduinoUno "compile").toOption.map Compilation.report ≠
              (compile plain bald .arduinoUno "compile").toOption.map Compilation.report)) = some true := by
    decide +kernel
  obtain ⟨program, built, differ⟩ := Option.bind_eq_some_iff.mp differ
  obtain ⟨plain, builtToo, differ⟩ := Option.bind_eq_some_iff.mp differ
  obtain ⟨configuration, wired, differ⟩ := Option.bind_eq_some_iff.mp differ
  obtain ⟨bald, wiredToo, differ⟩ := Option.map_eq_some_iff.mp differ
  replace built := Outcome.eq_ok_of_toOption built
  replace builtToo := Outcome.eq_ok_of_toOption builtToo
  replace wired := Outcome.eq_ok_of_toOption wired
  replace wiredToo := Outcome.eq_ok_of_toOption wiredToo
  obtain ⟨_, _, alike⟩ := annotations_never_matter
    (show Draft.Program.scribbled.bare = Draft.Program.scribbled.bare.bare from rfl)
    (show Draft.Configuration.scribbled.bare = Draft.Configuration.scribbled.bare.bare from rfl)
  exact ⟨program, plain, configuration, bald, built, builtToo, wired, wiredToo, of_decide_eq_true differ,
    alike _ _ _ _ built builtToo wired wiredToo .arduinoUno "compile"⟩

end BlockSketch
