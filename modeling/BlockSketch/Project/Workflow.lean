import BlockSketch.Configuration.Pins
import BlockSketch.Project.Basic
import BlockSketch.Sketch.Generate
import BlockSketch.Validation

/-!
Workers and workflows. A worker adds findings and products to a project. Errors
in the program do not stop a workflow; it stops only at a worker that lacks the
product of an earlier one.
-/
namespace BlockSketch

/-- A worker did not find a product that it needs. -/
structure WorkerFailure where
  worker : Worker
  missing : ProductKind
deriving DecidableEq, Repr

/-- The failure in one line. -/
def WorkerFailure.message (failure : WorkerFailure) : String :=
  "worker `" ++ failure.worker.name ++ "`: " ++ failure.missing.missingMessage

namespace Project

/-- The project after a check of its program, bound to a configuration or
    not. -/
def validateProgram (project : Project) (configuration : Option Configuration) : Project :=
  (project.addFindings (project.program.validate configuration)).addProduct
    (.usedHardware (project.program.usedHardware configuration))

/-- What is logged while the configuration is checked. -/
def configurationEvents (configuration : Configuration) (platform : Platform) : List Event :=
  let conflicts := (configuration.claims platform).flatMap fun (component, claim) =>
    claim.conflicts.map fun port => Event.pinTaken component.name.text port.role port.pin.text
  let unchecked := (configuration.components.filter fun component => component.type.isOther).map
    fun component => Event.componentUnchecked component.name.text component.type.tag
  conflicts ++ unchecked

/-- The project after a check of its configuration. -/
def validateConfiguration (project : Project) (platform : Platform) : Project :=
  (project.addFindings (project.configuration.validate platform)).record
    (configurationEvents project.configuration platform)

/-- The project after a check of its types. -/
def checkTypes (project : Project) : Project :=
  let summary := project.program.checkTypes
  ((project.record [.typesChecked summary.faults.length]).addFindings
    (summary.faults.map Typing.Fault.finding)).addProduct (.typeCheck summary)

/-- The project after an attempt to generate its sketch. Nothing is generated
    for a project that has failed before. -/
def generate (project : Project) (used : UsedHardware) : Project :=
  if project.result.isSuccess then
    match project.program.generate project.configuration used with
    | .ok source => { project with source := some source }.record [.sketchGenerated source.utf8ByteSize]
    | .error error => (project.record [.generationFailed error.message]).raise .generationError
  else project.record [.generationSkipped project.result]

/-- The project after the work of one worker. -/
def execute (platform : Platform) (project : Project) : Worker → Except WorkerFailure Project
  | .validator => .ok (project.validateProgram none)
  | .configurationValidator =>
    .ok ((project.validateConfiguration platform).validateProgram (some project.configuration))
  | .typeCheck => .ok project.checkTypes
  | .codeGenerator =>
    match project.products.usedHardware? with
    | some used => .ok (project.generate used)
    | none => .error ⟨.codeGenerator, .usedHardware⟩

/-- The project after a workflow, and the failure that stopped it. -/
def run (platform : Platform) (workflow : String) (project : Project) :
    List Worker → Project × Option WorkerFailure
  | [] => (project.record [.workflowFinished workflow project.result project.errorCount], none)
  | worker :: rest =>
    let started := project.record [.workerStarted workflow worker]
    match started.execute platform worker with
    | .ok done => (done.record [.workerFinished workflow worker done.errorCount]).run platform workflow rest
    | .error failure =>
      ((started.record [.workflowAborted workflow worker failure.message]).raise .workflowError,
        some failure)

end Project

/-- A workflow in one line: its name and its workers. -/
def workflowText (name : String) (workers : List Worker) : String :=
  "Workflow \x7b name: " ++ Text.quoted name ++ ", workers: " ++
    Text.quotedList (workers.map Worker.name) ++ " \x7d"

end BlockSketch
