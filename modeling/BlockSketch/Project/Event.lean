import BlockSketch.Platform.Basic
import BlockSketch.Project.Verdict

/-!
What is logged while a program is compiled. An event knows its level, the part of the
compiler that it comes from, its message and its fields.
-/
namespace BlockSketch

inductive Event
  | compilationStarted (platform workflow : String)
  | workerStarted (workflow : String) (worker : Worker)
  | workerFinished (workflow : String) (worker : Worker) (errors : Nat)
  | workflowAborted (workflow : String) (worker : Worker) (error : String)
  | workflowFinished (workflow : String) (result : Verdict) (errors : Nat)
  | pinTaken (component role pin : String)
  | componentUnchecked (component tag : String)
  | typesChecked (errors : Nat)
  | generationSkipped (result : Verdict)
  | sketchGenerated (bytes : Nat)
  | generationFailed (error : String)
deriving DecidableEq, Repr

inductive LogLevel
  | debug | info | warn
deriving DecidableEq, Repr

def LogLevel.word : LogLevel → String
  | .debug => "DEBUG"
  | .info => "INFO"
  | .warn => "WARN"

namespace Event

def level : Event → LogLevel
  | workerStarted .. | workerFinished .. | pinTaken .. | componentUnchecked .. | typesChecked ..
  | sketchGenerated .. => .debug
  | compilationStarted .. | workflowFinished .. => .info
  | workflowAborted .. | generationSkipped .. | generationFailed .. => .warn

/-- The part of the compiler that logs the event. -/
def target : Event → String
  | compilationStarted .. => "nepoc"
  | workerStarted .. | workerFinished .. | workflowAborted .. | workflowFinished .. =>
    "nepo::worker::workflow"
  | pinTaken .. | componentUnchecked .. => "nepo::worker::validate"
  | typesChecked .. => "nepo::worker::type_check"
  | generationSkipped .. | sketchGenerated .. | generationFailed .. => "nepo::worker::codegen"

def message : Event → String
  | compilationStarted .. => "compiling"
  | workerStarted .. => "worker started"
  | workerFinished .. => "worker finished"
  | workflowAborted .. => "workflow aborted"
  | workflowFinished .. => "workflow finished"
  | pinTaken .. => "pin already taken"
  | componentUnchecked .. => "no checks for component type"
  | typesChecked .. => "type check finished"
  | generationSkipped .. => "skipping code generation"
  | sketchGenerated .. => "sketch generated"
  | generationFailed .. => "code generation failed"

/-- The fields of the event with their values as texts. -/
def fields : Event → List (String × String)
  | compilationStarted platform workflow => [("platform", platform), ("workflow", workflow)]
  | workerStarted workflow worker => [("workflow", workflow), ("worker", worker.name)]
  | workerFinished workflow worker errors =>
    [("workflow", workflow), ("worker", worker.name), ("errors", toString errors)]
  | workflowAborted workflow worker error =>
    [("workflow", workflow), ("worker", worker.name), ("error", error)]
  | workflowFinished workflow result errors =>
    [("workflow", workflow), ("result", Vocabulary.word result), ("errors", toString errors)]
  | pinTaken component role pin => [("component", component), ("role", role), ("pin", pin)]
  | componentUnchecked component tag => [("component", component), ("tag", tag)]
  | typesChecked errors => [("errors", toString errors)]
  | generationSkipped result => [("result", Vocabulary.word result)]
  | sketchGenerated bytes => [("bytes", toString bytes)]
  | generationFailed error => [("error", error)]

/-- The event in one line. -/
def text (event : Event) : String :=
  event.level.word ++ " " ++ event.target ++ ": " ++ event.message ++
    String.join (event.fields.map fun (name, value) => " " ++ name ++ "=" ++ value)

end Event
end BlockSketch
