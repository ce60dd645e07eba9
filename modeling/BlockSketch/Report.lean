import BlockSketch.Json.Writer
import BlockSketch.Project.Workflow

/-!
Reports: the verdict on a project, every notice with the block or component it
is about, and the sketch or the failure that the workflow ended with.
-/
namespace BlockSketch

/-- The block or component that a diagnostic is about. -/
inductive Origin
  | block (kind : Kind) (blockId : Option String)
  | component (name : String)
deriving DecidableEq, Repr

def Origin.text : Origin → String
  | block kind (some id) => kind.word ++ " block " ++ id
  | block kind none => kind.word ++ " block"
  | component name => "component " ++ name

/-- A notice with its origin. -/
structure Diagnostic where
  origin : Origin
  notice : Notice
deriving DecidableEq, Repr

/-- The diagnostic in one line. -/
def Diagnostic.text (diagnostic : Diagnostic) : String :=
  diagnostic.origin.text ++ ": " ++ diagnostic.notice.text

/-- The origin of notices at a node. -/
def Node.origin (node : Node) : Origin :=
  .block node.kind node.label.blockId?

/-- The notices at a node. -/
def Node.diagnostics (findings : List Finding) (node : Node) : List Diagnostic :=
  (Finding.noticesAt findings (.block node.label.position)).map fun notice => ⟨node.origin, notice⟩

/-- The notices at the nodes of a program, in tree order. -/
def Program.diagnostics (program : Program) (findings : List Finding) : List Diagnostic :=
  program.occurrences.flatMap fun occurrence => occurrence.node.diagnostics findings

/-- The notices at the components of a configuration, in their order. -/
def Configuration.diagnostics (configuration : Configuration) (findings : List Finding) :
    List Diagnostic :=
  configuration.components.flatMap fun component =>
    (Finding.noticesAt findings (.component component.name)).map fun notice =>
      ⟨.component component.name.text, notice⟩

/-- The outcome of a run. -/
structure Report where
  result : Verdict
  errorCount : Nat
  diagnostics : List Diagnostic
  source : Option String
  workflowError : Option String
deriving DecidableEq, Repr

/-- All diagnostics of a project: those of the components, then those of the
    program. -/
def Project.diagnostics (project : Project) : List Diagnostic :=
  project.configuration.diagnostics project.findings ++ project.program.diagnostics project.findings

/-- The report on a project, with the failure of its workflow if there was
    one. -/
def Project.report (project : Project) (failure : Option WorkerFailure) : Report where
  result := project.result
  errorCount := project.errorCount
  diagnostics := project.diagnostics
  source := project.source
  workflowError := failure.map WorkerFailure.message

namespace Report

/-- The report in lines: the diagnostics, the failure, and the verdict. -/
def text (report : Report) : String :=
  String.join (report.diagnostics.map fun diagnostic => diagnostic.text ++ "\n") ++
    (report.workflowError.elim "" fun error => "workflow error: " ++ error ++ "\n") ++
    Vocabulary.word report.result ++ " (" ++ toString report.errorCount ++ " errors)"

end Report

namespace Json

/-- A member with this key. -/
def member (key : String) (value : Json) : Option String × Json :=
  (some key, value)

/-- A member that stands only if it has a value. -/
def optionalMember (key : String) (value : Option String) : List (Option String × Json) :=
  (value.map fun text => member key (ofString text)).toList

end Json

open Json in
/-- A notice as members of an object. -/
def Notice.members (notice : Notice) : List (Option String × Json) :=
  [member "severity" (ofString (Vocabulary.word notice.severity)),
   member "message" (ofString (Vocabulary.word notice.message))] ++
    (if notice.parameters.isEmpty then []
     else
      [member "parameters" (.array (notice.parameters.map fun (name, value) =>
        .array [ofString name, ofString value]))])

open Json in
/-- An origin as members of an object. -/
def Origin.members : Origin → List (Option String × Json)
  | .block kind blockId =>
    [member "origin" (ofString "block"), member "kind" (ofString kind.word)] ++
      optionalMember "block_id" blockId
  | .component name => [member "origin" (ofString "component"), member "name" (ofString name)]

def Diagnostic.toJson (diagnostic : Diagnostic) : Json :=
  .object (diagnostic.origin.members ++ diagnostic.notice.members)

open Json in
/-- The report as an object. What a report does not have is left out. -/
def Report.toJson (report : Report) : Json :=
  .object
    ([member "result" (ofString (Vocabulary.word report.result)),
      member "error_count" (ofNat report.errorCount),
      member "diagnostics" (.array (report.diagnostics.map Diagnostic.toJson))] ++
      optionalMember "source" report.source ++ optionalMember "workflow_error" report.workflowError)

/-- A run over a project that has come to its end. -/
structure Compilation where
  project : Project
  failure : Option WorkerFailure

def Compilation.report (compilation : Compilation) : Report :=
  compilation.project.report compilation.failure

/-- Runs a workflow of the platform over a program and a configuration. Only a
    workflow that the platform does not define is an error; all else that goes
    wrong is in the report. -/
def compile (program : Program) (configuration : Configuration) (platform : Platform)
    (workflow : String) : Except UnknownWorkflow Compilation := do
  let workers ← platform.workflow workflow
  let (project, failure) := Project.run platform workflow { program, configuration } workers
  return { project, failure }

end BlockSketch
