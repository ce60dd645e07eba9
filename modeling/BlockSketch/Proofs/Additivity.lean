import BlockSketch.Proofs.Ending
import Mathlib.Algebra.BigOperators.Group.List.Basic
import Mathlib.Algebra.GroupWithZero.Nat

/-!
Workers do not get in each other's way. What a worker finds does not depend on those before
it, so a run finds what its workers find alone, one after the other: the errors add up, and
the notices at a node or component are put in line. Without a generator, the order of the
workers shows in the order of the notices only.
-/
namespace BlockSketch

namespace Compilation

/-- The notices that a run has left at a node or component. -/
def noticesAt (compilation : Compilation) (place : Place) : List Notice :=
  Finding.noticesAt compilation.project.findings place

variable (platform : Platform) (workflow : String) (program : Program) (configuration : Configuration)
  {workers others : List Worker}

/-! ## Runs that come to their end -/

theorem reached_of_no_generator (idle : .codeGenerator ∉ workers) :
    ∃ last, ({ program, configuration } : Project).after? platform workflow workers = some last := by
  rcases Project.reached_or_stopped platform workflow program configuration workers with
    reached | ⟨before, after, _, rfl, _⟩
  · exact reached
  · exact absurd (List.mem_append_right _ List.mem_cons_self) idle

theorem completed_of_no_generator (idle : .codeGenerator ∉ workers) :
    (ofRun platform workflow program configuration workers).failure = none := by
  obtain ⟨last, reached⟩ := reached_of_no_generator platform workflow program configuration idle
  rw [ofRun_of_after? reached]

/-- Without a generator, the verdict says whether there are errors. -/
theorem result_of_no_generator (idle : .codeGenerator ∉ workers) :
    (ofRun platform workflow program configuration workers).report.result =
      .ofErrors (ofRun platform workflow program configuration workers).report.errorCount := by
  obtain ⟨last, reached⟩ := reached_of_no_generator platform workflow program configuration idle
  rw [ofRun_of_after? reached]
  refine (Project.judged reached).counted ?_
  rintro ⟨before, after, rfl, _⟩
  exact idle (List.mem_append_right _ List.mem_cons_self)

variable {platform workflow program configuration}

/-- A run that was not stopped has found what its workers find. -/
theorem findings_of_completed
    (completed : (ofRun platform workflow program configuration workers).failure = none) :
    (ofRun platform workflow program configuration workers).project.findings =
      workers.flatMap (Worker.findings platform program configuration) := by
  rcases Project.reached_or_stopped platform workflow program configuration workers with
    ⟨last, reached⟩ | ⟨before, after, last, rfl, _, reached, lacking⟩
  · rw [ofRun_of_after? reached]
    exact (Project.traced reached).findings_eq
  · rw [ofRun_of_lacking reached lacking] at completed
    cases completed

variable (platform workflow program configuration workers)

/-- Stopped or not, a run counts the errors that it has found. -/
theorem errorCount_ofRun :
    (ofRun platform workflow program configuration workers).report.errorCount =
      Finding.errorCount (ofRun platform workflow program configuration workers).project.findings := by
  rcases Project.reached_or_stopped platform workflow program configuration workers with
    ⟨last, reached⟩ | ⟨before, after, last, rfl, _, reached, lacking⟩
  · rw [ofRun_of_after? reached]
    exact (Project.traced reached).errorCount_eq
  · rw [ofRun_of_lacking reached lacking]
    exact (Project.traced reached).errorCount_eq

/-! ## One worker alone -/

/-- A worker alone finds what it always finds. A generator alone is stopped, but it never finds
    anything. -/
theorem findings_alone (worker : Worker) :
    (ofRun platform workflow program configuration [worker]).project.findings =
      worker.findings platform program configuration := by
  by_cases isGenerator : worker = .codeGenerator
  · subst isGenerator
    rfl
  · have idle : .codeGenerator ∉ [worker] := by simpa using Ne.symm isGenerator
    rw [findings_of_completed (completed_of_no_generator platform workflow program configuration idle)]
    simp

theorem errorCount_alone (worker : Worker) :
    (ofRun platform workflow program configuration [worker]).report.errorCount =
      worker.errors platform program configuration := by
  rw [errorCount_ofRun, findings_alone]
  rfl

/-! ## Many workers -/

variable {platform workflow program configuration workers}

theorem errorCount_eq_sum
    (completed : (ofRun platform workflow program configuration workers).failure = none) :
    (ofRun platform workflow program configuration workers).report.errorCount =
      (workers.map fun worker =>
        (ofRun platform workflow program configuration [worker]).report.errorCount).sum := by
  simp only [errorCount_alone]
  rw [errorCount_ofRun, findings_of_completed completed, Finding.errorCount, List.countP_flatMap]
  rfl

theorem noticesAt_eq_flatMap
    (completed : (ofRun platform workflow program configuration workers).failure = none) (place : Place) :
    (ofRun platform workflow program configuration workers).noticesAt place =
      workers.flatMap fun worker =>
        (ofRun platform workflow program configuration [worker]).noticesAt place := by
  simp only [noticesAt, findings_alone]
  rw [findings_of_completed completed]
  simp only [Finding.noticesAt, List.filter_flatMap, List.map_flatMap]

end Compilation

/-- A run that is not stopped finds what its workers find alone: its errors are theirs
    together, and at each node and component it leaves their notices one after the other. So
    without a generator another order of the workers gives the same verdict, as many errors,
    and the same notices everywhere, in another order. -/
theorem workers_compose (platform : Platform) (workflow : String) (program : Program)
    (configuration : Configuration) (workers : List Worker) :
    let ended := Compilation.ofRun platform workflow program configuration
    ((ended workers).failure = none →
      (ended workers).report.errorCount =
          (workers.map fun worker => (ended [worker]).report.errorCount).sum ∧
        (ended [.codeGenerator]).report.errorCount = 0 ∧
        ∀ place, (ended workers).noticesAt place =
          workers.flatMap fun worker => (ended [worker]).noticesAt place) ∧
    (.codeGenerator ∉ workers → ∀ others, workers.Perm others →
      (ended others).report.result = (ended workers).report.result ∧
        (ended others).report.errorCount = (ended workers).report.errorCount ∧
        ∀ place, ((ended others).noticesAt place).Perm ((ended workers).noticesAt place)) := by
  intro ended
  refine ⟨fun completed => ⟨Compilation.errorCount_eq_sum completed, rfl,
    Compilation.noticesAt_eq_flatMap completed⟩, fun idle others moved => ?_⟩
  have idleToo : .codeGenerator ∉ others := mt moved.mem_iff.mpr idle
  have completed := Compilation.completed_of_no_generator platform workflow program configuration idle
  have completedToo := Compilation.completed_of_no_generator platform workflow program configuration idleToo
  have errorCount : (ended others).report.errorCount = (ended workers).report.errorCount := by
    rw [Compilation.errorCount_eq_sum completed, Compilation.errorCount_eq_sum completedToo]
    exact (moved.symm.map _).sum_eq
  refine ⟨?_, errorCount, fun place => ?_⟩
  · rw [Compilation.result_of_no_generator _ _ _ _ idle, Compilation.result_of_no_generator _ _ _ _ idleToo,
      errorCount]
  · rw [Compilation.noticesAt_eq_flatMap completed, Compilation.noticesAt_eq_flatMap completedToo]
    exact moved.symm.flatMap_right _

/-- The types are checked twice, so that the one mistake counts twice. -/
theorem impatient_errors_add_up :
    let ended := Compilation.ofRun .late "again" .impatient .empty
    let workers : List Worker := [.typeCheck, .validator, .codeGenerator, .typeCheck]
    (ended workers).failure = none ∧ (ended workers).report.errorCount = 2 ∧
      (ended workers).report.errorCount =
        (workers.map fun worker => (ended [worker]).report.errorCount).sum := by
  intro ended workers
  have completed : (ended workers).failure = none := rfl
  obtain ⟨adds, _⟩ := workers_compose .late "again" .impatient .empty workers
  exact ⟨completed, rfl, (adds completed).1⟩

end BlockSketch
