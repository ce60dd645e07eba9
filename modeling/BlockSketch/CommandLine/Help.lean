import BlockSketch.CommandLine.Arguments

/-!
What the command line says about itself.
-/
namespace BlockSketch.CommandLine

/-- The name of the command with its version. -/
def versionText : String :=
  "nepoc 0.0.1\n"

/-- An entry of the help: how the argument is written, what it is in one line,
    further lines that only the long help has, and the default. -/
structure HelpEntry where
  usage : String
  summary : String
  details : List String := []
  default : Option String := none

/-- How the command is used. -/
def usageLine : String :=
  "Usage: nepoc [OPTIONS] <PROGRAM>"

def programEntry : HelpEntry where
  usage := "<PROGRAM>"
  summary := "Path to the program JSON file"

/-- The options in the order the help lists them. -/
def optionEntries (inquiry : Inquiry) : List HelpEntry :=
  [{ usage := "-c, --configuration <CONFIGURATION>"
     summary := "Path to the robot configuration JSON file"
     details := ["Without one the program is checked against an empty configuration."] },
   { usage := "-p, --platform <PLATFORM>"
     summary := "Platform description in TOML. Defaults to the built-in Arduino Uno" },
   { usage := "-w, --workflow <WORKFLOW>"
     summary := "Workflow of the platform to run"
     default := some "compile" },
   { usage := "-o, --output <OUTPUT>"
     summary := "Write the generated sketch to this file instead of stdout" },
   { usage := "    --json"
     summary := "Print the full report as JSON on stdout" },
   { usage := "-v, --verbose"
     summary := "Log the pipeline at debug level unless `RUST_LOG` says otherwise" },
   { usage := "-h, --help"
     summary :=
      if inquiry = .help then "Print help (see a summary with '-h')"
      else "Print help (see more with '--help')" },
   { usage := "-V, --version"
     summary := "Print version" }]

def indent : String :=
  "          "

/-- An entry of the short help: one line, on which the summary stands after so
    many columns for the usage. -/
def HelpEntry.short (width : Nat) (entry : HelpEntry) : String :=
  "  " ++ entry.usage.pushn ' ' (width - entry.usage.length) ++ "  " ++ entry.summary ++
    (entry.default.elim "" fun value => " [default: " ++ value ++ "]")

/-- The entries of the short help, with their summaries one below the other. -/
def shortEntries (entries : List HelpEntry) : String :=
  let width := entries.foldl (fun width entry => max width entry.usage.length) 0
  "\n".intercalate (entries.map (HelpEntry.short width))

/-- An entry of the long help. A summary that is not all there is to say ends
    in a full stop. -/
def HelpEntry.long (entry : HelpEntry) : String :=
  let summary := if entry.details.isEmpty then entry.summary else entry.summary ++ "."
  let default := (entry.default.map fun value => "[default: " ++ value ++ "]").toList
  "  " ++ entry.usage ++ "\n" ++ indent ++
    ("\n" ++ indent ++ "\n" ++ indent).intercalate (summary :: entry.details ++ default)

/-- The short help. -/
def summaryText : String :=
  "NEPO block program compiler (nepoc)\n\n" ++ usageLine ++ "\n\nArguments:\n" ++
    shortEntries [programEntry] ++ "\n\nOptions:\n" ++ shortEntries (optionEntries .summary) ++ "\n"

/-- The long help. -/
def helpText : String :=
  "The 'nepoc' command validates a NEPO block program against a robot configuration and compiles " ++
    "it to an Arduino sketch. Diagnostics go to stderr; the sketch goes to stdout unless -o is " ++
    "given.\n\n" ++ usageLine ++ "\n\nArguments:\n" ++ programEntry.long ++ "\n\nOptions:\n" ++
    "\n\n".intercalate ((optionEntries .help).map HelpEntry.long) ++ "\n"

/-- The answer to an inquiry. -/
def Inquiry.text : Inquiry → String
  | .summary => summaryText
  | .help => helpText
  | .version => versionText

end BlockSketch.CommandLine
