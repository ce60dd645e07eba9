import BlockSketch.Platform.Basic
import BlockSketch.Toml.Reader

/-!
Platforms from their TOML descriptions. A description needs a name; pins, roles
and workflows may be left out, and keys that mean nothing are skipped.
-/
namespace BlockSketch

namespace Toml

def text? : Toml → Option String
  | string value => some value
  | _ => none

def flag? : Toml → Option Bool
  | boolean value => some value
  | _ => none

/-- The items of an array, if all of them can be read. -/
def list? {α : Type} (read? : Toml → Option α) : Toml → Option (List α)
  | array items => items.mapM read?
  | _ => none

/-- The entries of a table, if all of them can be read. -/
def entries? {α : Type} (read? : Toml → Option α) : Toml → Option (List (String × α))
  | table entries => entries.mapM fun (key, value) => (read? value).map (key, ·)
  | _ => none

/-- Whether the value is an array or a table without anything in it. -/
def isEmpty : Toml → Bool
  | array [] => true
  | table [] => true
  | _ => false

/-- A worker by its word, which may also be the only key of a table and stand
    for nothing there. -/
def worker? : Toml → Option Worker
  | string word => Vocabulary.ofWord? word
  | table [(word, value)] => if value.isEmpty then Vocabulary.ofWord? word else none
  | _ => none

/-- What a key of a table stands for, or the default if it is not there. -/
def field? {α : Type} (entries : List (String × Toml)) (key : String) (read? : Toml → Option α)
    (default : α) : Option α :=
  match entries.lookup key with
  | some value => read? value
  | none => some default

end Toml

/-- The platform that a table describes. -/
def Platform.ofToml? : Toml → Option Platform
  | .table entries => do
    let name ← (entries.lookup "name").bind Toml.text?
    let freePins ← Toml.field? entries "free_pins" (Toml.list? Toml.text?) []
    let overlappingRoles ← Toml.field? entries "overlapping_roles" (Toml.entries? Toml.flag?) []
    let workflows ← Toml.field? entries "workflows" (Toml.entries? (Toml.list? Toml.worker?)) []
    return { name, freePins, overlappingRoles, workflows }
  | _ => none

/-- The platform that a text describes. -/
def Platform.parse? (source : String) : Option Platform :=
  (Toml.read? source).bind Platform.ofToml?

end BlockSketch
