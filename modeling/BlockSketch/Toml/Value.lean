/-!
TOML documents: tables of values. Numbers and dates are told apart from texts
and truth values, and no further.

A document is put together from headers and assignments. How a table came about
decides what may still be added to it, so a table under construction remembers
that.
-/
namespace BlockSketch

/-- A TOML value. -/
inductive Toml
  | string (value : String)
  | boolean (value : Bool)
  | scalar
  | array (items : List Toml)
  | table (entries : List (String × Toml))

namespace Toml

/-- How a table came about: on the way to a table with a longer header, by a
    header of its own, or by a dotted key. -/
inductive Origin
  | implicit | header | dotted
deriving DecidableEq, Repr

/-- What a key of a table under construction stands for: a value that is
    complete, a table, or an array of tables, of which the last is the one under
    construction. -/
inductive Item
  | value (value : Toml)
  | table (origin : Origin) (entries : List (String × Item))
  | tables (done : List (List (String × Item))) (last : List (String × Item))

/-- The entries of a table under construction. -/
abbrev Entries := List (String × Item)

namespace Entries

/-- The entries after a change to what a key stands for. -/
def update (key : String) (change : Option Item → Option Item) : Entries → Option Entries
  | [] => (change none).map fun item => [(key, item)]
  | (other, item) :: rest =>
    if other = key then (change (some item)).map fun item => (other, item) :: rest
    else (update key change rest).map ((other, item) :: ·)

/-- The entries after a change to the table at the end of a path of headers. A
    table that is missing on the way comes about implicitly; an array of tables
    leads to its last one. -/
def within (change : Entries → Option Entries) : (path : List String) → Entries → Option Entries
  | [], entries => change entries
  | key :: path, entries =>
    entries.update key fun
      | none => (within change path []).map (.table .implicit)
      | some (.table origin inner) => (within change path inner).map (.table origin)
      | some (.tables done last) => (within change path last).map (.tables done)
      | some (.value _) => none

/-- The entries after the header of a table. A table has one header. -/
def openTable (path : List String) (key : String) (entries : Entries) : Option Entries :=
  entries.within (update key fun
    | none => some (.table .header [])
    | some (.table .implicit inner) => some (.table .header inner)
    | some _ => none) path

/-- The entries after the header of a table in an array of tables. -/
def openElement (path : List String) (key : String) (entries : Entries) : Option Entries :=
  entries.within (update key fun
    | none => some (.tables [] [])
    | some (.tables done last) => some (.tables (done ++ [last]) [])
    | some _ => none) path

/-- The entries after an assignment to a dotted key. The value needs a key that
    is new, in a table that only dotted keys have opened. The way there leads
    through no table with a header of its own, and through an array of tables to
    its last one. -/
def assign (value : Toml) : (path : List String) → (key : String) → Entries → Option Entries
  | [], key, entries =>
    entries.update key fun
      | none => some (.value value)
      | some _ => none
  | [step], key, entries =>
    entries.update step fun
      | none => (assign value [] key []).map (.table .dotted)
      | some (.table .dotted inner) => (assign value [] key inner).map (.table .dotted)
      | some _ => none
  | step :: next :: path, key, entries =>
    entries.update step fun
      | none => (assign value (next :: path) key []).map (.table .dotted)
      | some (.table .dotted inner) => (assign value (next :: path) key inner).map (.table .dotted)
      | some (.table .implicit inner) => (assign value (next :: path) key inner).map (.table .implicit)
      | some (.tables done last) => (assign value (next :: path) key last).map (.tables done)
      | some _ => none

end Entries

mutual

/-- The value that an item has come to. -/
def Item.close : Item → Toml
  | .value value => value
  | .table _ entries => .table (closeEntries entries)
  | .tables done last => .array (closeAll done ++ [.table (closeEntries last)])

def closeEntries : List (String × Item) → List (String × Toml)
  | [] => []
  | (key, item) :: rest => (key, item.close) :: closeEntries rest

def closeAll : List (List (String × Item)) → List Toml
  | [] => []
  | entries :: rest => .table (closeEntries entries) :: closeAll rest

end

/-- One line of a document, as far as it says anything. -/
inductive Statement
  | header (path : List String) (key : String)
  | elementHeader (path : List String) (key : String)
  | assignment (path : List String) (key : String) (value : Toml)

/-- A document under construction, with the header that assignments belong
    to. -/
structure Document where
  current : List String
  entries : Entries

/-- The document after one more statement. -/
def Document.add (document : Document) : Statement → Option Document
  | .header path key => do
    let entries ← document.entries.openTable path key
    return ⟨path ++ [key], entries⟩
  | .elementHeader path key => do
    let entries ← document.entries.openElement path key
    return ⟨path ++ [key], entries⟩
  | .assignment path key value => do
    let entries ← document.entries.within (Entries.assign value path key) document.current
    return { document with entries }

/-- The table that statements describe. -/
def ofStatements? (statements : List Statement) : Option Toml :=
  (statements.foldlM Document.add ⟨[], []⟩).map fun document => .table (closeEntries document.entries)

/-- The table that the assignments between braces describe. -/
def ofAssignments? (assignments : List (List String × String × Toml)) : Option Toml :=
  (assignments.foldlM (fun entries (path, key, value) => Entries.assign value path key entries) []).map
    fun entries => .table (closeEntries entries)

end Toml
end BlockSketch
