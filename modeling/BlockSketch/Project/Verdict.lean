import BlockSketch.Vocabulary

/-!
How a run over a program ended.
-/
namespace BlockSketch

/-- The verdicts from best to worst. -/
inductive Verdict
  | success | invalidStatements | generationError | workflowError
deriving DecidableEq, Repr

instance : Vocabulary Verdict where
  title := "Verdict"
  values := [.success, .invalidStatements, .generationError, .workflowError]
  word
    | .success => "SUCCESS"
    | .invalidStatements => "PROGRAM_INVALID_STATEMENTS"
    | .generationError => "COMPILER_GENERATION_ERROR"
    | .workflowError => "COMPILER_WORKFLOW_ERROR"

namespace Verdict

/-- How bad the verdict is. -/
def rank : Verdict → Nat
  | success => 0
  | invalidStatements => 1
  | generationError => 2
  | workflowError => 3

/-- The worse of two verdicts. -/
def worse (first second : Verdict) : Verdict :=
  if first.rank < second.rank then second else first

def isSuccess (verdict : Verdict) : Bool :=
  verdict == success

theorem rank_le_worse_left (first second : Verdict) : first.rank ≤ (first.worse second).rank := by
  unfold worse; split <;> omega

theorem rank_le_worse_right (first second : Verdict) : second.rank ≤ (first.worse second).rank := by
  unfold worse; split <;> omega

end Verdict
end BlockSketch
