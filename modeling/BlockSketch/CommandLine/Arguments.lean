/-!
The arguments of the command line. They are read one by one: the first that
cannot be used ends the reading with an error, and a request for help or for
the version ends it too.
-/
namespace BlockSketch.CommandLine

/-- What an argument gives a value to. The program is the only one that has no
    option. -/
inductive Setting
  | program | configuration | platform | workflow | output
deriving DecidableEq, Repr

/-- What an argument turns on. -/
inductive Switch
  | json | verbose
deriving DecidableEq, Repr

/-- What is asked for instead of a compilation. -/
inductive Inquiry
  | summary | help | version
deriving DecidableEq, Repr

/-- An option. -/
inductive Choice
  | setting (setting : Setting)
  | switch (switch : Switch)
  | inquiry (inquiry : Inquiry)
deriving DecidableEq, Repr

/-- The name of a setting in messages. -/
def Setting.text : Setting → String
  | .program => "<PROGRAM>"
  | .configuration => "--configuration <CONFIGURATION>"
  | .platform => "--platform <PLATFORM>"
  | .workflow => "--workflow <WORKFLOW>"
  | .output => "--output <OUTPUT>"

def Switch.text : Switch → String
  | .json => "--json"
  | .verbose => "--verbose"

/-- Only the name of a workflow may be empty; all other settings are paths. -/
def Setting.allowsEmpty (setting : Setting) : Bool :=
  setting == .workflow

/-- The option with this letter. -/
def Choice.ofLetter? : Char → Option Choice
  | 'c' => some (.setting .configuration)
  | 'p' => some (.setting .platform)
  | 'w' => some (.setting .workflow)
  | 'o' => some (.setting .output)
  | 'v' => some (.switch .verbose)
  | 'h' => some (.inquiry .summary)
  | 'V' => some (.inquiry .version)
  | _ => none

/-- The option with this name. -/
def Choice.ofName? (name : String) : Option Choice :=
  [("configuration", .setting .configuration), ("platform", .setting .platform),
   ("workflow", .setting .workflow), ("output", .setting .output), ("json", .switch .json),
   ("verbose", .switch .verbose), ("help", .inquiry .help), ("version", .inquiry .version)].lookup name

/-- Why arguments cannot be used. -/
inductive UsageError
  | unexpected (argument : String)
  | missingValue (setting : Setting)
  | emptyValue (setting : Setting)
  | unwantedValue (name value : String)
  | repeatedSetting (setting : Setting)
  | repeatedSwitch (switch : Switch)
  | missingProgram
deriving DecidableEq, Repr

/-- The error in one line. -/
def UsageError.message : UsageError → String
  | .unexpected argument => "unexpected argument '" ++ argument ++ "' found"
  | .missingValue setting | .emptyValue setting =>
    "a value is required for '" ++ setting.text ++ "' but none was supplied"
  | .unwantedValue name value =>
    "unexpected value '" ++ value ++ "' for '--" ++ name ++ "' found; no more were expected"
  | .repeatedSetting setting =>
    "the argument '" ++ setting.text ++ "' cannot be used multiple times"
  | .repeatedSwitch switch =>
    "the argument '" ++ switch.text ++ "' cannot be used multiple times"
  | .missingProgram => "the following required arguments were not provided: " ++ Setting.program.text

/-- Why the reading of arguments ends before the last one. -/
inductive Halt
  | usage (error : UsageError)
  | inquiry (inquiry : Inquiry)
deriving DecidableEq, Repr

/-- What has been read so far. A setting that is `pending` takes the next
    argument as its value, and after `--` all arguments are values. -/
structure Progress where
  values : List (Setting × String) := []
  switches : List Switch := []
  pending : Option Setting := none
  valuesOnly : Bool := false

namespace Progress

/-- Gives a setting its value. -/
def assign (progress : Progress) (setting : Setting) (value : String) : Except Halt Progress :=
  if (progress.values.lookup setting).isSome then .error (.usage (.repeatedSetting setting))
  else if value.isEmpty && !setting.allowsEmpty then .error (.usage (.emptyValue setting))
  else .ok { progress with values := progress.values ++ [(setting, value)], pending := none }

/-- Turns a switch on. -/
def turnOn (progress : Progress) (switch : Switch) : Except Halt Progress :=
  if switch ∈ progress.switches then .error (.usage (.repeatedSwitch switch))
  else .ok { progress with switches := progress.switches ++ [switch] }

/-- Reads a path, which can only be that of the program. -/
def path (progress : Progress) (argument : String) : Except Halt Progress :=
  if (progress.values.lookup Setting.program).isSome then .error (.usage (.unexpected argument))
  else progress.assign .program argument

/-- Reads letters of options. The letter of a setting is the last one: what
    follows it is the value, with or without a sign of equality. -/
def letters (progress : Progress) : List Char → Except Halt Progress
  | [] => .ok progress
  | letter :: rest =>
    match Choice.ofLetter? letter with
    | none => .error (.usage (.unexpected (String.ofList ['-', letter])))
    | some (.inquiry inquiry) => .error (.inquiry inquiry)
    | some (.switch switch) => do
      let progress ← progress.turnOn switch
      progress.letters rest
    | some (.setting setting) =>
      match rest with
      | [] => .ok { progress with pending := some setting }
      | '=' :: value => progress.assign setting (String.ofList value)
      | value => progress.assign setting (String.ofList value)

/-- Reads the name of an option, perhaps with a value after a sign of
    equality. -/
def named (progress : Progress) (text : List Char) : Except Halt Progress :=
  let name := String.ofList (text.takeWhile (· != '='))
  let attached := match text.dropWhile (· != '=') with
    | '=' :: value => some (String.ofList value)
    | _ => none
  match Choice.ofName? name, attached with
  | none, _ => .error (.usage (.unexpected ("--" ++ name)))
  | some (.setting setting), none => .ok { progress with pending := some setting }
  | some (.setting setting), some value => progress.assign setting value
  | some (.switch _), some value => .error (.usage (.unwantedValue name value))
  | some (.switch switch), none => progress.turnOn switch
  | some (.inquiry _), some value => .error (.usage (.unwantedValue name value))
  | some (.inquiry inquiry), none => .error (.inquiry inquiry)

/-- Reads an argument. A single dash is a path. -/
def read (progress : Progress) (argument : String) : Except Halt Progress :=
  if progress.valuesOnly then progress.path argument
  else
    match argument.toList, progress.pending with
    | '-' :: _ :: _, some setting => .error (.usage (.missingValue setting))
    | _, some setting => progress.assign setting argument
    | ['-', '-'], none => .ok { progress with valuesOnly := true }
    | '-' :: '-' :: name, none => progress.named name
    | '-' :: letter :: rest, none => progress.letters (letter :: rest)
    | _, none => progress.path argument

end Progress

/-- A compilation that is asked for. -/
structure Request where
  program : String
  configuration : Option String := none
  platform : Option String := none
  workflow : String := "compile"
  output : Option String := none
  json : Bool := false
  verbose : Bool := false
deriving DecidableEq, Repr

/-- The request that the arguments come to. -/
def Progress.request (progress : Progress) : Except Halt Request :=
  match progress.pending, progress.values.lookup Setting.program with
  | some setting, _ => .error (.usage (.missingValue setting))
  | none, none => .error (.usage .missingProgram)
  | none, some program =>
    .ok {
      program
      configuration := progress.values.lookup .configuration
      platform := progress.values.lookup .platform
      workflow := (progress.values.lookup Setting.workflow).getD "compile"
      output := progress.values.lookup .output
      json := progress.switches.contains .json
      verbose := progress.switches.contains .verbose }

/-- The request that arguments make. -/
def Request.ofArguments (arguments : List String) : Except Halt Request := do
  let progress ← arguments.foldlM Progress.read {}
  progress.request

end BlockSketch.CommandLine
