import BlockSketch.Proofs.Source

/-!
How a run ends is decided by the order of its workers. A generator with no validator before it
stops the run, and nothing that comes later is done. All other runs come to their end; their
verdict is that of the first generator that fails, or else says whether there are errors.
-/
namespace BlockSketch

/-- The run of these workers over a new project, at its end. -/
def Compilation.ofRun (platform : Platform) (workflow : String) (program : Program)
    (configuration : Configuration) (workers : List Worker) : Compilation where
  project := (Project.run platform workflow { program, configuration } workers).1
  failure := (Project.run platform workflow { program, configuration } workers).2

/-- Some generator has no validator before it. -/
def Worker.Unprepared (workers : List Worker) : Prop :=
  ∃ before after, workers = before ++ .codeGenerator :: after ∧
    .validator ∉ before ∧ .configurationValidator ∉ before

/-- Errors in the program do not hide that generation has failed. -/
theorem Verdict.generationError_worse_ofErrors (count : Nat) :
    generationError.worse (ofErrors count) = generationError := by
  rcases ofErrors_cases count with none | some
  · rw [none]
    rfl
  · rw [some]
    rfl

namespace Project
variable {platform : Platform} {workflow : String} {program : Program} {configuration : Configuration}
  {ran : List Worker} {project last : Project}

/-! ## Runs in two parts -/

/-- Workers that are through leave the run to those after them. -/
theorem run_append {first : List Worker} (reached : project.after? platform workflow first = some last)
    (rest : List Worker) :
    project.run platform workflow (first ++ rest) = last.run platform workflow rest := by
  induction first generalizing project with
  | nil =>
    cases reached
    rfl
  | cons worker first ih =>
    rw [after?] at reached
    rw [List.cons_append, run]
    cases executed : (project.record [.workerStarted workflow worker]).execute platform worker with
    | ok done =>
      simp only [executed] at reached ⊢
      exact ih reached
    | error failure =>
      simp only [executed] at reached
      cases reached

theorem run_of_after? (reached : project.after? platform workflow ran = some last) :
    project.run platform workflow ran =
      (last.record [.workflowFinished workflow last.result last.errorCount], none) := by
  have ended := run_append reached []
  rwa [List.append_nil, run] at ended

/-- A generator that finds no hardware stops the run, whoever comes after it. -/
theorem run_of_lacking (lacking : project.products.usedHardware? = none) (rest : List Worker) :
    project.run platform workflow (.codeGenerator :: rest) =
      (((project.record [.workerStarted workflow .codeGenerator]).record
          [.workflowAborted workflow .codeGenerator
            (WorkerFailure.message ⟨.codeGenerator, .usedHardware⟩)]).raise .workflowError,
        some ⟨.codeGenerator, .usedHardware⟩) := by
  have failed : (project.record [.workerStarted workflow .codeGenerator]).execute platform .codeGenerator =
      .error ⟨.codeGenerator, .usedHardware⟩ :=
    execute_eq_error_iff.mpr ⟨rfl, lacking, rfl⟩
  rw [run]
  simp only [failed]

/-! ## Which runs are stopped -/

/-- There is no hardware exactly if no validator has worked. -/
theorem Traced.lacking_iff (traced : Traced platform program configuration ran project) :
    project.products.usedHardware? = none ↔ .validator ∉ ran ∧ .configurationValidator ∉ ran := by
  rw [traced.hardware_eq, List.findSome?_eq_none_iff]
  constructor
  · intro none
    refine ⟨fun member => ?_, fun member => ?_⟩
    · cases none .validator (List.mem_reverse.mpr member)
    · cases none .configurationValidator (List.mem_reverse.mpr member)
  · rintro ⟨noValidator, noConfigurationValidator⟩ worker member
    rw [List.mem_reverse] at member
    cases worker with
    | validator => exact absurd member noValidator
    | configurationValidator => exact absurd member noConfigurationValidator
    | typeCheck => rfl
    | codeGenerator => rfl

/-- Every generator that is through had a validator before it. -/
theorem prepared_of_after?
    (reached : ({ program, configuration } : Project).after? platform workflow ran = some project) :
    ¬ Worker.Unprepared ran := by
  rintro ⟨before, after, rfl, unvalidated⟩
  rw [after?_append] at reached
  obtain ⟨found, earlier, later⟩ := Option.bind_eq_some_iff.mp reached
  obtain ⟨_, worked, _⟩ := after?_cons later
  obtain ⟨used, hardware⟩ := worked.exists_hardware
  cases ((traced earlier).lacking_iff.mpr unvalidated).symm.trans hardware

/-- No generator is through where there is no hardware. -/
theorem no_generator_of_lacking
    (reached : ({ program, configuration } : Project).after? platform workflow ran = some project)
    (lacking : project.products.usedHardware? = none) : .codeGenerator ∉ ran := by
  intro member
  obtain ⟨before, after, rfl⟩ := List.append_of_mem member
  obtain ⟨noValidator, noConfigurationValidator⟩ := (traced reached).lacking_iff.mp lacking
  refine prepared_of_after? reached ⟨before, after, rfl, ?_, ?_⟩
  · exact fun validated => noValidator (List.mem_append_left _ validated)
  · exact fun validated => noConfigurationValidator (List.mem_append_left _ validated)

theorem source_eq_none
    (reached : ({ program, configuration } : Project).after? platform workflow ran = some project)
    (idle : .codeGenerator ∉ ran) : project.source = none := by
  cases present : project.source with
  | none => rfl
  | some source =>
    obtain ⟨⟨before, after, rfl, _⟩, _⟩ := stores_of_source reached present
    exact absurd (List.mem_append_right _ List.mem_cons_self) idle

/-- A run comes to its end, or it is stopped at its first generator. -/
theorem reached_or_stopped (platform : Platform) (workflow : String) (program : Program)
    (configuration : Configuration) (workers : List Worker) :
    (∃ last, ({ program, configuration } : Project).after? platform workflow workers = some last) ∨
    ∃ before after last, workers = before ++ .codeGenerator :: after ∧ .codeGenerator ∉ before ∧
      ({ program, configuration } : Project).after? platform workflow before = some last ∧
      last.products.usedHardware? = none := by
  rcases run_cases platform workflow { program, configuration } workers with
    ⟨last, _, reached, _⟩ | ⟨before, after, last, _, split, reached, lacking, _⟩
  · exact .inl ⟨last, reached⟩
  · exact .inr ⟨before, after, last, split, no_generator_of_lacking reached lacking, reached, lacking⟩

/-! ## Verdicts -/

/-- A generator that works on the project now does not make a source, though the verdict is
    good. -/
def FailsToGenerate (project : Project) : Prop :=
  project.result = .success ∧ ∃ used error, project.products.usedHardware? = some used ∧
    project.program.generate project.configuration used = .error error

/-- Some generator among the workers comes while the verdict is good, and fails. -/
def GenerationFails (platform : Platform) (workflow : String) (program : Program)
    (configuration : Configuration) (workers : List Worker) : Prop :=
  ∃ before after, workers = before ++ .codeGenerator :: after ∧
    (run platform workflow { program, configuration } before).1.FailsToGenerate

theorem generationFails_concat (worker : Worker)
    (reached : ({ program, configuration } : Project).after? platform workflow ran = some project) :
    GenerationFails platform workflow program configuration (ran ++ [worker]) ↔
      GenerationFails platform workflow program configuration ran ∨
        worker = .codeGenerator ∧ project.FailsToGenerate := by
  have now : (run platform workflow { program, configuration } ran).1.FailsToGenerate ↔
      project.FailsToGenerate := by
    rw [run_of_after? reached]
    rfl
  constructor
  · rintro ⟨before, after, split, fails⟩
    rcases List.eq_nil_or_concat after with rfl | ⟨after, final, rfl⟩
    · obtain ⟨rfl, isGenerator⟩ := List.append_inj' split rfl
      exact .inr ⟨List.singleton_inj.mp isGenerator, now.mp fails⟩
    · rw [List.concat_eq_append, ← List.cons_append, ← List.append_assoc] at split
      exact .inl ⟨before, after, (List.append_inj' split rfl).1, fails⟩
  · rintro (⟨before, after, rfl, fails⟩ | ⟨rfl, fails⟩)
    · exact ⟨before, after ++ [worker], by simp, fails⟩
    · exact ⟨ran, [], rfl, now.mpr fails⟩

/-- The verdict on the work so far: generation has failed, or only the errors count. -/
structure Judged (platform : Platform) (workflow : String) (program : Program)
    (configuration : Configuration) (ran : List Worker) (project : Project) : Prop where
  failed : GenerationFails platform workflow program configuration ran → project.result = .generationError
  counted : ¬ GenerationFails platform workflow program configuration ran →
    project.result = .ofErrors project.errorCount

theorem Judged.start : Judged platform workflow program configuration [] { program, configuration } := by
  refine ⟨?_, fun _ => rfl⟩
  rintro ⟨before, after, split, _⟩
  cases before <;> cases split

/-- While the verdict is good, no generator has failed. -/
theorem Judged.not_fails (judged : Judged platform workflow program configuration ran project)
    (clean : project.result = .success) :
    ¬ GenerationFails platform workflow program configuration ran := by
  intro fails
  cases clean.symm.trans (judged.failed fails)

theorem Judged.step {worker : Worker} {after : Project}
    (reached : ({ program, configuration } : Project).after? platform workflow ran = some project)
    (judged : Judged platform workflow program configuration ran project)
    (worked : Worked platform worker project after) :
    Judged platform workflow program configuration (ran ++ [worker]) after := by
  have fails := generationFails_concat worker reached
  by_cases isGenerator : worker = .codeGenerator
  · subst isGenerator
    have errorCount : after.errorCount = project.errorCount := worked.errorCount_eq
    cases worked.generated rfl with
    | stored used source hardware clean generated result _ =>
      have succeeds : ¬ GenerationFails platform workflow program configuration (ran ++ [.codeGenerator]) := by
        rw [fails]
        rintro (earlier | ⟨_, _, other, error, found, refused⟩)
        · exact judged.not_fails clean earlier
        · cases found.symm.trans hardware
          cases refused.symm.trans generated
      refine ⟨fun failing => absurd failing succeeds, fun _ => ?_⟩
      rw [result, errorCount, (traced reached).clean clean]
      rfl
    | failed used error hardware clean refused result _ =>
      have failing := fails.mpr (.inr ⟨rfl, clean, used, error, hardware, refused⟩)
      exact ⟨fun _ => result, fun succeeds => absurd failing succeeds⟩
    | skipped used hardware faulty result _ =>
      have same : GenerationFails platform workflow program configuration (ran ++ [.codeGenerator]) ↔
          GenerationFails platform workflow program configuration ran := by
        rw [fails]
        exact or_iff_left fun now => faulty now.2.1
      refine ⟨fun failing => result.trans (judged.failed (same.mp failing)), fun succeeds => ?_⟩
      rw [result, errorCount]
      exact judged.counted (mt same.mpr succeeds)
  · obtain ⟨result, _⟩ := worked.checked isGenerator
    have same : GenerationFails platform workflow program configuration (ran ++ [worker]) ↔
        GenerationFails platform workflow program configuration ran := by
      rw [fails]
      exact or_iff_left fun now => isGenerator now.1
    refine ⟨fun failing => ?_, fun succeeds => ?_⟩
    · rw [result, judged.failed (same.mp failing)]
      exact Verdict.generationError_worse_ofErrors _
    · rw [result, judged.counted (mt same.mpr succeeds), worked.errorCount_eq]
      simpa using Verdict.worse_ofErrors_add .success project.errorCount _

theorem judged
    (reached : ({ program, configuration } : Project).after? platform workflow ran = some project) :
    Judged platform workflow program configuration ran project :=
  after?_induction (motive := Judged platform workflow program configuration) Judged.start
    (fun _ _ _ _ earlier holds worked => holds.step earlier worked) reached

end Project

/-! ## Outcomes -/

/-- A run that was stopped, beside the run of the workers that were through: the verdict says
    that the workflow is broken, and all else is as those workers have left it. -/
structure Compilation.Stopped (stopped before : Compilation) : Prop where
  completed : before.failure = none
  failure : stopped.failure = some ⟨.codeGenerator, .usedHardware⟩
  result : stopped.report.result = .workflowError
  source : stopped.report.source = none
  errorCount : stopped.report.errorCount = before.report.errorCount
  diagnostics : stopped.report.diagnostics = before.report.diagnostics
  products : stopped.project.products = before.project.products

section
variable {platform : Platform} {workflow : String} {program : Program} {configuration : Configuration}
  {workers : List Worker} {last : Project}

theorem Compilation.ofRun_of_after?
    (reached : ({ program, configuration } : Project).after? platform workflow workers = some last) :
    ofRun platform workflow program configuration workers =
      ⟨last.record [.workflowFinished workflow last.result last.errorCount], none⟩ := by
  rw [ofRun, Project.run_of_after? reached]

/-- A generator without hardware stops the run, and those after it do not matter. -/
theorem Compilation.ofRun_of_lacking
    (reached : ({ program, configuration } : Project).after? platform workflow workers = some last)
    (lacking : last.products.usedHardware? = none) (rest : List Worker) :
    ofRun platform workflow program configuration (workers ++ .codeGenerator :: rest) =
      ⟨((last.record [.workerStarted workflow .codeGenerator]).record
          [.workflowAborted workflow .codeGenerator
            (WorkerFailure.message ⟨.codeGenerator, .usedHardware⟩)]).raise .workflowError,
        some ⟨.codeGenerator, .usedHardware⟩⟩ := by
  rw [ofRun, Project.run_append reached, Project.run_of_lacking lacking]

theorem Compilation.stopped_of_lacking
    (reached : ({ program, configuration } : Project).after? platform workflow workers = some last)
    (lacking : last.products.usedHardware? = none) (rest : List Worker) :
    (ofRun platform workflow program configuration (workers ++ .codeGenerator :: rest)).Stopped
      (ofRun platform workflow program configuration workers) := by
  have sourceless := Project.source_eq_none reached (Project.no_generator_of_lacking reached lacking)
  rw [ofRun_of_lacking reached lacking, ofRun_of_after? reached]
  refine ⟨rfl, rfl, ?_, sourceless, rfl, rfl, rfl⟩
  show last.result.worse .workflowError = .workflowError
  cases last.result <;> rfl

end

/-- The order of the workers decides how a run ends. It is stopped exactly if some generator
    has no validator before it, and then at the first generator: later workers do nothing,
    and what the earlier ones have found stays. Otherwise the verdict is that of a generator
    that has failed, and if there is none, that of the errors. -/
theorem outcome_decided_by_order (platform : Platform) (workflow : String) (program : Program)
    (configuration : Configuration) (workers : List Worker) :
    let ended := Compilation.ofRun platform workflow program configuration
    (platform.workflow workflow = .ok workers →
      compile program configuration platform workflow = .ok (ended workers)) ∧
    ((ended workers).report.workflowError.isSome ↔ Worker.Unprepared workers) ∧
    (Worker.Unprepared workers →
      ∃ before after, workers = before ++ .codeGenerator :: after ∧ .codeGenerator ∉ before ∧
        (ended workers).Stopped (ended before) ∧
        ∀ others, ended (before ++ .codeGenerator :: others) = ended workers) ∧
    (¬ Worker.Unprepared workers →
      (ended workers).report.workflowError = none ∧
      (Project.GenerationFails platform workflow program configuration workers →
        (ended workers).report.result = .generationError) ∧
      (¬ Project.GenerationFails platform workflow program configuration workers →
        (ended workers).report.result = .ofErrors (ended workers).report.errorCount)) := by
  intro ended
  refine ⟨compile_eq, ?_⟩
  rcases Project.reached_or_stopped platform workflow program configuration workers with
    ⟨last, reached⟩ | ⟨before, after, last, rfl, idle, reached, lacking⟩
  · have prepared := Project.prepared_of_after? reached
    have judged := Project.judged reached
    simp only [ended, Compilation.ofRun_of_after? reached]
    exact ⟨iff_of_false Bool.false_ne_true prepared, fun unprepared => absurd unprepared prepared,
      fun _ => ⟨rfl, judged.failed, judged.counted⟩⟩
  · have unprepared : Worker.Unprepared (before ++ .codeGenerator :: after) :=
      ⟨before, after, rfl, (Project.traced reached).lacking_iff.mp lacking⟩
    have stopped := Compilation.stopped_of_lacking reached lacking after
    refine ⟨iff_of_true ?_ unprepared, fun _ => ⟨before, after, rfl, idle, stopped, fun others => ?_⟩,
      fun prepared => absurd unprepared prepared⟩
    · simp only [ended, Compilation.report, Project.report, stopped.failure]
      rfl
    · simp only [ended, Compilation.ofRun_of_lacking reached lacking]

/-- The error that was found before the generator is kept, and the validator comes too late. -/
theorem impatient_run_stopped :
    Worker.Unprepared [.typeCheck, .codeGenerator, .validator] ∧
      ∃ before after, [.typeCheck, .codeGenerator, .validator] = before ++ .codeGenerator :: after ∧
        .codeGenerator ∉ before ∧
        (Compilation.ofRun .late "early" .impatient .empty [.typeCheck, .codeGenerator, .validator]).Stopped
          (.ofRun .late "early" .impatient .empty before) ∧
        (Compilation.ofRun .late "early" .impatient .empty before).report.errorCount = 1 := by
  have unprepared : Worker.Unprepared [.typeCheck, .codeGenerator, .validator] :=
    ⟨[.typeCheck], [.validator], rfl, by decide, by decide⟩
  obtain ⟨_, _, stops, _⟩ := outcome_decided_by_order .late "early" .impatient .empty
    [.typeCheck, .codeGenerator, .validator]
  obtain ⟨before, after, split, idle, stopped, _⟩ := stops unprepared
  refine ⟨unprepared, before, after, split, idle, stopped, ?_⟩
  rw [← stopped.errorCount]
  rfl

end BlockSketch
