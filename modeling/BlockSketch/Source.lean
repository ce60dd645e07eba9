import BlockSketch.Draft.Build
import BlockSketch.Draft.Interchange
import BlockSketch.Draft.Wiring

/-!
Programs and configurations from their JSON sources. The whole source is read
before anything in it is checked.
-/
namespace BlockSketch

/-- Why a source gives no program or configuration: it has not the shape of a
    draft, for a cause that the reader of documents has put into words, or the
    draft is rejected. -/
inductive SourceError
  | unreadable (cause : String)
  | rejected (error : DraftError)
deriving DecidableEq, Repr

/-- The program that a source holds. The reader of documents says for what
    cause it cannot read a source. -/
def Program.parse (cause : String → String) (source : String) : Except SourceError Program :=
  match (Json.read? source).bind Draft.Program.ofJson? with
  | none => .error (.unreadable (cause source))
  | some draft => draft.build.mapError .rejected

/-- The configuration that a source holds. -/
def Configuration.parse (cause : String → String) (source : String) :
    Except SourceError Configuration :=
  match (Json.read? source).bind Draft.Configuration.ofJson? with
  | none => .error (.unreadable (cause source))
  | some draft => draft.build.mapError .rejected

namespace SourceError

/-- What has failed, for a program. -/
def programContext : SourceError → String
  | unreadable _ => "Failed to parse program JSON"
  | rejected _ => "Invalid program"

/-- What has failed, for a configuration. -/
def configurationContext : SourceError → String
  | unreadable _ => "Failed to parse configuration JSON"
  | rejected _ => "Invalid configuration"

/-- Why it has failed. -/
def cause : SourceError → String
  | unreadable cause => cause
  | rejected error => error.message

/-- The error of a program's source in one line. -/
def programMessage (error : SourceError) : String :=
  error.programContext ++ ": " ++ error.cause

/-- The error of a configuration's source in one line. -/
def configurationMessage (error : SourceError) : String :=
  error.configurationContext ++ ": " ++ error.cause

end SourceError

end BlockSketch
