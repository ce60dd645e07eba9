import BlockSketch.Notice
import BlockSketch.Program.Tree

/-!
Findings: notices together with the block or component they are about. Findings
are collected in one list, the oldest first, and nothing is ever taken out of
it; the notices of a place are read off the list.
-/
namespace BlockSketch

/-- What a notice is attached to. -/
inductive Place
  | block (position : Position)
  | component (name : Identifier)
deriving DecidableEq

/-- A notice at its place. -/
structure Finding where
  place : Place
  notice : Notice
deriving DecidableEq

namespace Finding

/-- The notices at a place, the oldest first. -/
def noticesAt (findings : List Finding) (place : Place) : List Notice :=
  (findings.filter fun finding => finding.place = place).map Finding.notice

/-- The number of errors among the findings. -/
def errorCount (findings : List Finding) : Nat :=
  findings.countP fun finding => finding.notice.isError

theorem noticesAt_append (earlier later : List Finding) (place : Place) :
    noticesAt (earlier ++ later) place = noticesAt earlier place ++ noticesAt later place := by
  simp [noticesAt]

theorem errorCount_append (earlier later : List Finding) :
    errorCount (earlier ++ later) = errorCount earlier + errorCount later := by
  simp [errorCount]

end Finding
end BlockSketch
