import BlockSketch.CommandLine.Run

/-!
The command `nepoc`.
-/
namespace BlockSketch.CommandLine

/-- Why an access to the file system failed. -/
def FileError.ofSystem : IO.Error → FileError
  | .noFileOrDirectory .. => .missing
  | error => .other (toString error)

/-- The files of the file system. -/
def systemFiles : Files IO where
  read path := do
    try
      let text ← IO.FS.readFile path
      return .ok text
    catch error => return .error (.ofSystem error)
  write path text := do
    try
      IO.FS.writeFile path text
      return .ok ()
    catch error => return .error (.ofSystem error)

/-- What the readers say of a source that they cannot read. -/
def plainWording : Wording where
  program source := ofSource source "a program"
  configuration source := ofSource source "a configuration"
  platform _ := "not the description of a platform"
where
  ofSource (source expected : String) : String :=
    if (Json.read? source).isSome then "not " ++ expected else "not a document"

/-- Whether an event is shown. Without a wish for more, only warnings are. -/
def isShown (verbose : Bool) (event : Event) : Bool :=
  verbose || event.level == .warn

end BlockSketch.CommandLine

open BlockSketch BlockSketch.CommandLine

def main (arguments : List String) : IO UInt32 := do
  let outcome ← run plainWording systemFiles arguments
  let verbose := match Request.ofArguments arguments with
    | .ok request => request.verbose
    | .error _ => false
  for event in outcome.log do
    if isShown verbose event then IO.eprintln event.text
  IO.eprint outcome.errors
  IO.print outcome.output
  return outcome.exit
