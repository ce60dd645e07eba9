/-!
Access to files, and a folder of files in memory.
-/
namespace BlockSketch.CommandLine

/-- Why a file cannot be read or written. -/
inductive FileError
  | missing
  | isFolder
  | notFolder
  | other (reason : String)
deriving DecidableEq, Repr

def FileError.message : FileError → String
  | .missing => "No such file or directory (os error 2)"
  | .isFolder => "Is a directory (os error 21)"
  | .notFolder => "Not a directory (os error 20)"
  | .other reason => reason

/-- Ways to read and to write a file. -/
structure Files (m : Type → Type) where
  read : (path : String) → m (Except FileError String)
  write : (path text : String) → m (Except FileError Unit)

/-- A folder without folders in it: the names of its files and their texts. -/
abbrev Folder := List (String × String)

namespace Folder

/-- The name that a path leads to in the folder. -/
def locate (folder : Folder) (path : String) : Except FileError String :=
  let steps := path.splitOn "/"
  let named := steps.filter fun step => !step.isEmpty && step != "."
  if path.startsWith "/" then .error .missing
  else
    match named with
    | [] => .error .isFolder
    | [name] =>
      if steps.getLast? == some name then .ok name
      else if (folder.lookup name).isSome then .error .notFolder
      else .error .missing
    | first :: _ => if (folder.lookup first).isSome then .error .notFolder else .error .missing

/-- The text of the file at a path. -/
def read (folder : Folder) (path : String) : Except FileError String := do
  let name ← folder.locate path
  match folder.lookup name with
  | some text => return text
  | none => throw .missing

/-- The folder with a new text for a file. -/
def put (folder : Folder) (name text : String) : Folder :=
  if (folder.lookup name).isSome then
    folder.map fun file => if file.1 == name then (name, text) else file
  else folder ++ [(name, text)]

/-- The folder after the file at a path is written. -/
def write (folder : Folder) (path text : String) : Except FileError Folder := do
  let name ← folder.locate path
  return folder.put name text

/-- The files of a folder that can change. -/
def files : Files (StateM Folder) where
  read path := do
    let folder ← get
    return folder.read path
  write path text := do
    let folder ← get
    match folder.write path text with
    | .ok changed => do
      set changed
      return .ok ()
    | .error error => return .error error

/-- The files that are new or have another text than before. -/
def changes (before after : Folder) : Folder :=
  after.filter fun (name, text) => before.lookup name != some text

end Folder
end BlockSketch.CommandLine
