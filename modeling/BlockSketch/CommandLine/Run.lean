import BlockSketch.CommandLine.Folder
import BlockSketch.CommandLine.Help
import BlockSketch.Platform.Description
import BlockSketch.Report
import BlockSketch.Source

/-!
The command line: files are read, a workflow runs, and the outcome is written.
Files are read in the order program, configuration, platform, and the first that
is of no use ends the run.
-/
namespace BlockSketch.CommandLine

/-- What a run leaves behind apart from files. -/
structure Outcome where
  exit : UInt32
  output : String := ""
  errors : String := ""
  log : List Event := []

/-- The words in which the readers of documents say for what cause they cannot
    read a source. -/
structure Wording where
  program : String → String
  configuration : String → String
  platform : String → String

/-- Why a run gives no report. -/
inductive RunError
  | unreadable (path : String) (error : FileError)
  | badProgram (path : String) (error : SourceError)
  | badConfiguration (path : String) (error : SourceError)
  | unreadablePlatform (path : String) (error : FileError)
  | badPlatform (cause : String)
  | unknownWorkflow (error : UnknownWorkflow)

/-- The error in one line. -/
def RunError.message : RunError → String
  | .unreadable path error => "Failed to read `" ++ path ++ "`: " ++ error.message
  | .badProgram path error => "In program `" ++ path ++ "`: " ++ error.programMessage
  | .badConfiguration path error =>
    "In configuration `" ++ path ++ "`: " ++ error.configurationMessage
  | .unreadablePlatform path error =>
    "failed to read platform file `" ++ path ++ "`: " ++ error.message
  -- the description names the cause, and the chain of causes names it once more
  | .badPlatform cause => "invalid platform description: " ++ cause ++ ": " ++ cause
  | .unknownWorkflow error => error.compileMessage

/-- The line that an error ends a run with. -/
def errorLine (message : String) : String :=
  "Error: " ++ message ++ "\n"

section
variable {m : Type → Type} [Monad m] (wording : Wording)

/-- Reads the program. -/
def readProgram (files : Files m) (path : String) : ExceptT RunError m Program := do
  match ← files.read path with
  | .error error => throw (.unreadable path error)
  | .ok source =>
    match Program.parse wording.program source with
    | .ok program => return program
    | .error error => throw (.badProgram path error)

/-- Reads the configuration. Without a path it is the empty one. -/
def readConfiguration (files : Files m) : Option String → ExceptT RunError m Configuration
  | none => return .empty
  | some path => do
    match ← files.read path with
    | .error error => throw (.unreadable path error)
    | .ok source =>
      match Configuration.parse wording.configuration source with
      | .ok configuration => return configuration
      | .error error => throw (.badConfiguration path error)

/-- Reads the platform. Without a path it is the Arduino Uno. -/
def readPlatform (files : Files m) : Option String → ExceptT RunError m Platform
  | none => return .arduinoUno
  | some path => do
    match ← files.read path with
    | .error error => throw (.unreadablePlatform path error)
    | .ok source =>
      match Platform.parse? source with
      | some platform => return platform
      | none => throw (.badPlatform (wording.platform source))

/-- Reads all that is asked for and compiles it. -/
def Request.compile (request : Request) (files : Files m) :
    ExceptT RunError m (Platform × Compilation) := do
  let program ← readProgram wording files request.program
  let configuration ← readConfiguration wording files request.configuration
  let platform ← readPlatform wording files request.platform
  match BlockSketch.compile program configuration platform request.workflow with
  | .ok compilation => return (platform, compilation)
  | .error error => throw (.unknownWorkflow error)

/-- Writes a sketch where it is asked for, after the lines of the report. -/
def Request.deliver (request : Request) (files : Files m) (report : Report) : m Outcome := do
  let exit : UInt32 := if report.result.isSuccess then 0 else 1
  let lines := report.text ++ "\n"
  match report.source, request.output with
  | none, _ => return { exit, errors := lines }
  | some source, none => return { exit, output := source, errors := lines }
  | some source, some path =>
    match ← files.write path source with
    | .ok () => return { exit, output := "Sketch written to: " ++ path ++ "\n", errors := lines }
    | .error error =>
      return {
        exit := 1
        errors := lines ++ errorLine ("Failed to write `" ++ path ++ "`: " ++ error.message) }

/-- Serves a request. The exit code is zero only if there is no error. -/
def Request.run (request : Request) (files : Files m) : m Outcome := do
  match ← (request.compile wording files).run with
  | .error error => return { exit := 1, errors := errorLine error.message }
  | .ok (platform, compilation) =>
    let report := compilation.report
    let outcome ←
      if request.json then
        pure {
          exit := if report.result.isSuccess then 0 else 1
          output := report.toJson.pretty 0 ++ "\n" : Outcome }
      else request.deliver files report
    return { outcome with
      log := .compilationStarted platform.name request.workflow :: compilation.project.log }

/-- Runs the command with these arguments. -/
def run (files : Files m) (arguments : List String) : m Outcome :=
  match Request.ofArguments arguments with
  | .ok request => request.run wording files
  | .error (.inquiry inquiry) => return { exit := 0, output := inquiry.text }
  | .error (.usage error) => return {
      exit := 2
      errors := "error: " ++ error.message ++ "\n\n" ++ usageLine ++
        "\n\nFor more information, try '--help'.\n" }

end

end BlockSketch.CommandLine
