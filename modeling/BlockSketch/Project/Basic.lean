import BlockSketch.Configuration.Basic
import BlockSketch.Finding
import BlockSketch.Project.Event
import BlockSketch.Project.Product

/-!
A project: one program with one configuration, and what the workers have made
of it so far.
-/
namespace BlockSketch

/-- A program and a configuration under work. The count of errors and the
    verdict only ever get worse, and findings are only ever added. -/
structure Project where
  program : Program
  configuration : Configuration
  findings : List Finding := []
  errorCount : Nat := 0
  result : Verdict := .success
  products : Products := []
  source : Option String := none
  log : List Event := []

namespace Project

/-- The project with a verdict that is at least as bad as this one. -/
def raise (project : Project) (result : Verdict) : Project :=
  { project with result := project.result.worse result }

/-- The project with so many more errors. Any error makes the program
    invalid. -/
def addErrors (project : Project) (count : Nat) : Project :=
  if count = 0 then project
  else { project with errorCount := project.errorCount + count }.raise .invalidStatements

/-- The project with one more product. -/
def addProduct (project : Project) (product : Product) : Project :=
  { project with products := project.products.insert product }

/-- The project with these findings, whose errors are counted. -/
def addFindings (project : Project) (findings : List Finding) : Project :=
  { project with findings := project.findings ++ findings }.addErrors (Finding.errorCount findings)

/-- The project with events at the end of its log. -/
def record (project : Project) (events : List Event) : Project :=
  { project with log := project.log ++ events }

end Project
end BlockSketch
