import BlockSketch.Report
import Mathlib.Data.List.Induction

/-!
What one worker does to a project, said once (`Project.Worked`), and what a run of
workers does, by induction over the workers (`Project.after?_induction`). A checking
worker depends on the program, the configuration and the platform only, never on what
other workers have left; the generator depends on the verdict and on the hardware that
the last validator has found.
-/
namespace BlockSketch

theorem Finding.errorCount_eq_zero_iff {findings : List Finding} :
    errorCount findings = 0 ↔ ∀ finding ∈ findings, finding.notice.isError = false := by
  simp [errorCount, List.countP_eq_zero]

/-! ## What a worker adds -/

namespace Worker

/-- What a worker finds in a program and a configuration on a platform. -/
def findings (platform : Platform) (program : Program) (configuration : Configuration) :
    Worker → List Finding
  | validator => program.validate none
  | configurationValidator => configuration.validate platform ++ program.validate (some configuration)
  | typeCheck => program.checkTypes.faults.map Typing.Fault.finding
  | codeGenerator => []

/-- The number of errors that a worker finds. -/
def errors (platform : Platform) (program : Program) (configuration : Configuration)
    (worker : Worker) : Nat :=
  Finding.errorCount (worker.findings platform program configuration)

/-- The hardware that a worker leaves for the generator. -/
def hardware? (program : Program) (configuration : Configuration) : Worker → Option UsedHardware
  | validator => some (program.usedHardware none)
  | configurationValidator => some (program.usedHardware (some configuration))
  | typeCheck => none
  | codeGenerator => none

/-- Workers find no error together if each of them finds none. -/
theorem errorCount_flatMap_eq_zero_iff {platform : Platform} {program : Program}
    {configuration : Configuration} {workers : List Worker} :
    Finding.errorCount (workers.flatMap (findings platform program configuration)) = 0 ↔
      ∀ worker ∈ workers, worker.errors platform program configuration = 0 := by
  simp only [errors, Finding.errorCount_eq_zero_iff, List.forall_mem_flatMap]

end Worker

/-- The verdict on a program with so many errors. -/
def Verdict.ofErrors (count : Nat) : Verdict :=
  if count = 0 then success else invalidStatements

namespace Verdict

@[simp] theorem worse_success (verdict : Verdict) : verdict.worse success = verdict := by
  cases verdict <;> rfl

theorem worse_eq_success_iff {first second : Verdict} :
    first.worse second = success ↔ first = success ∧ second = success := by
  cases first <;> cases second <;> decide

@[simp] theorem success_worse (verdict : Verdict) : success.worse verdict = verdict := by
  cases verdict <;> rfl

theorem isSuccess_iff {verdict : Verdict} : verdict.isSuccess = true ↔ verdict = success := by
  cases verdict <;> decide

theorem ofErrors_cases (count : Nat) : ofErrors count = success ∨ ofErrors count = invalidStatements := by
  unfold ofErrors
  split
  · exact .inl rfl
  · exact .inr rfl

theorem ofErrors_eq_success_iff {count : Nat} : ofErrors count = success ↔ count = 0 := by
  unfold ofErrors
  split <;> simp [*]

theorem worse_ofErrors_add (verdict : Verdict) (first second : Nat) :
    (verdict.worse (ofErrors first)).worse (ofErrors second) =
      verdict.worse (ofErrors (first + second)) := by
  by_cases firstNone : first = 0
  · simp [ofErrors, firstNone]
  · by_cases secondNone : second = 0
    · simp [ofErrors, secondNone]
    · have both : first + second ≠ 0 := by omega
      simp only [ofErrors, firstNone, secondNone, both, if_false]
      cases verdict <;> rfl

end Verdict

namespace Products

theorem usedHardware?_replace {products : Products} {used : UsedHardware}
    (known : products.has .usedHardware = true) :
    usedHardware? (products.map fun other =>
      if other.kind = .usedHardware then .usedHardware used else other) = some used := by
  induction products with
  | nil => simp [has] at known
  | cons product rest ih =>
    cases product with
    | usedHardware old => simp [usedHardware?, Product.kind]
    | typeCheck summary =>
      have later : has rest .usedHardware = true := by simpa [has, Product.kind] using known
      simpa [usedHardware?, Product.kind] using ih later

/-- The newest hardware is the one that counts. -/
theorem usedHardware?_insert_usedHardware (products : Products) (used : UsedHardware) :
    (products.insert (.usedHardware used)).usedHardware? = some used := by
  unfold insert
  by_cases known : products.has .usedHardware = true
  · rw [if_pos (by simpa [Product.kind] using known)]
    exact usedHardware?_replace known
  · rw [if_neg (by simpa [Product.kind] using known)]
    have absent : usedHardware? products = none := by
      unfold usedHardware?
      rw [List.findSome?_eq_none_iff]
      intro product member
      cases product with
      | usedHardware old =>
        refine absurd ?_ known
        exact List.any_eq_true.mpr ⟨_, member, by simp [Product.kind]⟩
      | typeCheck summary => rfl
    unfold usedHardware? at absent ⊢
    rw [List.findSome?_append, absent]
    rfl

/-- Types do not hide the hardware. -/
theorem usedHardware?_insert_typeCheck (products : Products) (summary : Typing.Summary) :
    (products.insert (.typeCheck summary)).usedHardware? = products.usedHardware? := by
  unfold insert
  split
  · unfold usedHardware?
    rw [List.findSome?_map]
    congr 1
    funext product
    cases product <;> rfl
  · simp [usedHardware?, List.findSome?_append]

end Products

/-! ## One step -/

namespace Project

theorem addErrors_eq (project : Project) (count : Nat) :
    project.addErrors count =
      { project with
        errorCount := project.errorCount + count
        result := project.result.worse (.ofErrors count) } := by
  unfold addErrors
  by_cases none : count = 0
  · subst none
    simp [Verdict.ofErrors]
  · simp [none, raise, Verdict.ofErrors]

/-- What the generator makes of a project: it needs the hardware that a validator has
    found, and stores a source only for a project without fault so far. -/
inductive Generated (before after : Project) : Prop
  | stored (used : UsedHardware) (source : String)
      (hardware : before.products.usedHardware? = some used)
      (clean : before.result = .success)
      (generated : before.program.generate before.configuration used = .ok source)
      (result : after.result = .success) (kept : after.source = some source)
  | failed (used : UsedHardware) (error : SketchError)
      (hardware : before.products.usedHardware? = some used)
      (clean : before.result = .success)
      (refused : before.program.generate before.configuration used = .error error)
      (result : after.result = .generationError) (kept : after.source = before.source)
  | skipped (used : UsedHardware)
      (hardware : before.products.usedHardware? = some used)
      (faulty : before.result ≠ .success)
      (result : after.result = before.result) (kept : after.source = before.source)

/-- All that the work of one worker can do to a project, its log apart. -/
structure Worked (platform : Platform) (worker : Worker) (before after : Project) : Prop where
  program_eq : after.program = before.program
  configuration_eq : after.configuration = before.configuration
  findings_eq : after.findings =
    before.findings ++ worker.findings platform before.program before.configuration
  errorCount_eq : after.errorCount =
    before.errorCount + worker.errors platform before.program before.configuration
  hardware_eq : after.products.usedHardware? =
    (worker.hardware? before.program before.configuration).or before.products.usedHardware?
  checked : worker ≠ .codeGenerator →
    after.result =
        before.result.worse (.ofErrors (worker.errors platform before.program before.configuration)) ∧
      after.source = before.source
  generated : worker = .codeGenerator → Generated before after

variable {platform : Platform} {workflow : String}

theorem generate_generated {project : Project} {used : UsedHardware}
    (hardware : project.products.usedHardware? = some used) :
    Generated project (project.generate used) := by
  by_cases clean : project.result = .success
  · have open_ : project.result.isSuccess = true := Verdict.isSuccess_iff.mpr clean
    cases outcome : project.program.generate project.configuration used with
    | ok source =>
      have done : project.generate used =
          { project with source := some source }.record [.sketchGenerated source.utf8ByteSize] := by
        simp only [generate, open_, if_true, outcome]
      rw [done]
      exact .stored used source hardware clean outcome clean rfl
    | error error =>
      have done : project.generate used =
          (project.record [.generationFailed error.message]).raise .generationError := by
        simp only [generate, open_, if_true, outcome]
      rw [done]
      refine .failed used error hardware clean outcome ?_ rfl
      show project.result.worse .generationError = .generationError
      rw [clean]
      rfl
  · have done : project.generate used = project.record [.generationSkipped project.result] := by
      unfold generate
      rw [if_neg (fun open_ => clean (Verdict.isSuccess_iff.mp open_))]
    rw [done]
    exact .skipped used hardware clean rfl rfl

/-- Generation touches the verdict, the source and the log only. -/
theorem generate_frame (project : Project) (used : UsedHardware) :
    (project.generate used).program = project.program ∧
      (project.generate used).configuration = project.configuration ∧
      (project.generate used).findings = project.findings ∧
      (project.generate used).errorCount = project.errorCount ∧
      (project.generate used).products = project.products := by
  unfold generate
  split
  · split <;> exact ⟨rfl, rfl, rfl, rfl, rfl⟩
  · exact ⟨rfl, rfl, rfl, rfl, rfl⟩

/-- Every worker that does not fail does what `Worked` says. -/
theorem execute_worked {before after : Project} {worker : Worker}
    (executed : before.execute platform worker = .ok after) : Worked platform worker before after := by
  cases worker with
  | validator =>
    rw [← Except.ok.inj executed]
    constructor <;> simp [validateProgram, addFindings, addErrors_eq, addProduct, Worker.findings,
      Worker.errors, Worker.hardware?, Products.usedHardware?_insert_usedHardware]
  | configurationValidator =>
    rw [← Except.ok.inj executed]
    constructor <;> simp [validateProgram, validateConfiguration, record, addFindings, addErrors_eq,
      addProduct, Worker.findings, Worker.errors, Worker.hardware?, Finding.errorCount_append,
      Verdict.worse_ofErrors_add, Nat.add_assoc, Products.usedHardware?_insert_usedHardware]
  | typeCheck =>
    rw [← Except.ok.inj executed]
    constructor <;> simp [checkTypes, record, addFindings, addErrors_eq, addProduct, Worker.findings,
      Worker.errors, Worker.hardware?, Products.usedHardware?_insert_typeCheck]
  | codeGenerator =>
    unfold execute at executed
    cases hardware : before.products.usedHardware? with
    | none => simp [hardware] at executed
    | some used =>
      simp only [hardware, Except.ok.injEq] at executed
      subst executed
      obtain ⟨program, configuration, findings, errorCount, products⟩ := before.generate_frame used
      exact {
        program_eq := program
        configuration_eq := configuration
        findings_eq := by simp [findings, Worker.findings]
        errorCount_eq := by simp [errorCount, Worker.errors, Worker.findings, Finding.errorCount]
        hardware_eq := by simp [products, Worker.hardware?]
        checked := fun other => absurd rfl other
        generated := fun _ => generate_generated hardware }

/-- Only the generator can fail, and only where no validator has worked before. -/
theorem execute_eq_error_iff {project : Project} {worker : Worker} {failure : WorkerFailure} :
    project.execute platform worker = .error failure ↔
      worker = .codeGenerator ∧ project.products.usedHardware? = none ∧
        failure = ⟨.codeGenerator, .usedHardware⟩ := by
  cases worker with
  | codeGenerator =>
    unfold execute
    cases hardware : project.products.usedHardware? with
    | none => simp [eq_comm]
    | some used => simp
  | _ => simp [execute]

/-! ## A whole run -/

/-- The project that the next worker finds after these workers, if none of them fails. -/
def after? (platform : Platform) (workflow : String) (project : Project) :
    List Worker → Option Project
  | [] => some project
  | worker :: rest =>
    match (project.record [.workerStarted workflow worker]).execute platform worker with
    | .ok done => (done.record [.workerFinished workflow worker done.errorCount]).after? platform workflow rest
    | .error _ => none

theorem after?_cons {project last : Project} {worker : Worker} {rest : List Worker}
    (reached : project.after? platform workflow (worker :: rest) = some last) :
    ∃ next, Worked platform worker project next ∧ next.after? platform workflow rest = some last := by
  unfold after? at reached
  split at reached
  · next done executed =>
    refine ⟨_, ?_, reached⟩
    -- Events of the log stand before and after the work; `Worked` does not see them.
    obtain ⟨program, configuration, findings, errorCount, hardware, checked, generated⟩ :=
      execute_worked executed
    refine ⟨program, configuration, findings, errorCount, hardware, checked, fun isGenerator => ?_⟩
    cases generated isGenerator with
    | stored used source hardware clean generated result kept =>
      exact .stored used source hardware clean generated result kept
    | failed used error hardware clean refused result kept =>
      exact .failed used error hardware clean refused result kept
    | skipped used hardware faulty result kept => exact .skipped used hardware faulty result kept
  · cases reached

theorem after?_append (project : Project) (first rest : List Worker) :
    project.after? platform workflow (first ++ rest) =
      (project.after? platform workflow first).bind fun next => next.after? platform workflow rest := by
  induction first generalizing project with
  | nil => rfl
  | cons worker first ih =>
    simp only [List.cons_append, after?]
    split
    · exact ih _
    · rfl

theorem after?_concat {project last : Project} {ran : List Worker} {worker : Worker}
    (reached : project.after? platform workflow (ran ++ [worker]) = some last) :
    ∃ before, project.after? platform workflow ran = some before ∧ Worked platform worker before last := by
  rw [after?_append] at reached
  obtain ⟨before, earlier, remaining⟩ := Option.bind_eq_some_iff.mp reached
  obtain ⟨next, worked, ended⟩ := after?_cons remaining
  cases ended
  exact ⟨before, earlier, worked⟩

/-- A worker works after others, a generator if it finds the hardware. -/
theorem exists_after?_concat {start project : Project} {ran : List Worker}
    (reached : start.after? platform workflow ran = some project) {worker : Worker}
    (ready : worker = .codeGenerator → ∃ used, project.products.usedHardware? = some used) :
    ∃ next, start.after? platform workflow (ran ++ [worker]) = some next := by
  rw [after?_append, reached]
  cases executed : (project.record [.workerStarted workflow worker]).execute platform worker with
  | ok done =>
    refine ⟨done.record [.workerFinished workflow worker done.errorCount], ?_⟩
    simp [after?, executed]
  | error failure =>
    obtain ⟨isGenerator, lacking, _⟩ := execute_eq_error_iff.mp executed
    obtain ⟨used, hardware⟩ := ready isGenerator
    cases lacking.symm.trans hardware

/-- A generator that has worked has found the hardware. -/
theorem Worked.exists_hardware {before after : Project}
    (worked : Worked platform .codeGenerator before after) :
    ∃ used, before.products.usedHardware? = some used := by
  cases worked.generated rfl with
  | stored used _ hardware _ _ _ _ => exact ⟨used, hardware⟩
  | failed used _ hardware _ _ _ _ => exact ⟨used, hardware⟩
  | skipped used hardware _ _ _ => exact ⟨used, hardware⟩

/-- What holds at the start and is kept by every worker holds after all of them. -/
theorem after?_induction {start : Project} {motive : List Worker → Project → Prop}
    (initial : motive [] start)
    (step : ∀ ran before worker after, start.after? platform workflow ran = some before →
      motive ran before → Worked platform worker before after → motive (ran ++ [worker]) after)
    {workers : List Worker} {last : Project}
    (reached : start.after? platform workflow workers = some last) : motive workers last := by
  induction workers using List.reverseRecOn generalizing last with
  | nil =>
    cases reached
    exact initial
  | append_singleton ran worker ih =>
    obtain ⟨before, earlier, worked⟩ := after?_concat reached
    exact step ran before worker last earlier (ih earlier) worked

/-- A run comes to its end, or a generator that lacks the hardware stops it. -/
theorem run_cases (platform : Platform) (workflow : String) (project : Project)
    (workers : List Worker) :
    (∃ last log, project.after? platform workflow workers = some last ∧
      project.run platform workflow workers = ({ last with log }, none)) ∨
    ∃ before rest last log, workers = before ++ .codeGenerator :: rest ∧
      project.after? platform workflow before = some last ∧
      last.products.usedHardware? = none ∧
      project.run platform workflow workers =
        ({ last with log }.raise .workflowError, some ⟨.codeGenerator, .usedHardware⟩) := by
  induction workers generalizing project with
  | nil => exact .inl ⟨project, _, rfl, rfl⟩
  | cons worker workers ih =>
    cases executed : (project.record [.workerStarted workflow worker]).execute platform worker with
    | ok done =>
      have running : project.run platform workflow (worker :: workers) =
          (done.record [.workerFinished workflow worker done.errorCount]).run platform workflow workers := by
        rw [run]
        simp only [executed]
      have reaching (more : List Worker) : project.after? platform workflow (worker :: more) =
          (done.record [.workerFinished workflow worker done.errorCount]).after? platform workflow more := by
        rw [after?]
        simp only [executed]
      rw [running]
      rcases ih (done.record [.workerFinished workflow worker done.errorCount]) with
        ⟨last, log, reached, ended⟩ | ⟨before, rest, last, log, split, reached, lacking, ended⟩
      · exact .inl ⟨last, log, (reaching workers).trans reached, ended⟩
      · exact .inr ⟨worker :: before, rest, last, log, by rw [split]; rfl,
          (reaching before).trans reached, lacking, ended⟩
    | error failure =>
      obtain ⟨isGenerator, lacking, named⟩ := execute_eq_error_iff.mp executed
      refine .inr ⟨[], workers, project,
        project.log ++ [.workerStarted workflow worker] ++
          [.workflowAborted workflow worker failure.message],
        by rw [isGenerator]; rfl, rfl, lacking, ?_⟩
      rw [run]
      simp only [executed]
      rw [named]
      rfl

/-! ## What a run leaves behind -/

/-- How a project stands after these workers: the findings are those of the workers one
    after the other, the errors among them are counted, and the hardware is that of the last
    validator. -/
structure Traced (platform : Platform) (program : Program) (configuration : Configuration)
    (ran : List Worker) (project : Project) : Prop where
  program_eq : project.program = program
  configuration_eq : project.configuration = configuration
  findings_eq : project.findings = ran.flatMap (Worker.findings platform program configuration)
  errorCount_eq : project.errorCount = Finding.errorCount project.findings
  hardware_eq : project.products.usedHardware? =
    ran.reverse.findSome? (Worker.hardware? program configuration)
  clean : project.result = .success → project.errorCount = 0

variable {program : Program} {configuration : Configuration} {ran : List Worker} {project : Project}

/-- A worker never takes the verdict back, and errors never leave it good. -/
theorem Worked.clean {before after : Project} {worker : Worker}
    (worked : Worked platform worker before after) (clean : after.result = .success) :
    before.result = .success ∧ worker.errors platform before.program before.configuration = 0 := by
  by_cases isGenerator : worker = .codeGenerator
  · refine ⟨?_, by subst isGenerator; rfl⟩
    cases worked.generated isGenerator with
    | stored _ _ _ cleanBefore _ _ _ => exact cleanBefore
    | failed _ _ _ cleanBefore _ _ _ => exact cleanBefore
    | skipped _ _ _ result _ => exact result ▸ clean
  · rw [(worked.checked isGenerator).1, Verdict.worse_eq_success_iff,
      Verdict.ofErrors_eq_success_iff] at clean
    exact clean

theorem Traced.start : Traced platform program configuration [] { program, configuration } :=
  ⟨rfl, rfl, rfl, rfl, rfl, fun _ => rfl⟩

theorem Traced.step {before after : Project} {worker : Worker}
    (holds : Traced platform program configuration ran before)
    (worked : Worked platform worker before after) :
    Traced platform program configuration (ran ++ [worker]) after := by
  have findings := worked.findings_eq
  have errorCount := worked.errorCount_eq
  have hardware := worked.hardware_eq
  rw [holds.program_eq, holds.configuration_eq] at findings errorCount hardware
  refine ⟨worked.program_eq.trans holds.program_eq,
    worked.configuration_eq.trans holds.configuration_eq, ?_, ?_, ?_, ?_⟩
  · rw [findings, holds.findings_eq]
    simp
  · rw [errorCount, holds.errorCount_eq, findings, Finding.errorCount_append, Worker.errors]
  · rw [hardware, holds.hardware_eq, List.reverse_append, List.findSome?_append]
    simp
  · intro clean
    obtain ⟨cleanBefore, noErrors⟩ := worked.clean clean
    rw [worked.errorCount_eq, noErrors, holds.clean cleanBefore]

theorem traced
    (reached : ({ program, configuration } : Project).after? platform workflow ran = some project) :
    Traced platform program configuration ran project :=
  after?_induction (motive := Traced platform program configuration) Traced.start
    (fun _ _ _ _ _ holds worked => holds.step worked) reached

/-- No worker of a run that is still good has found an error. -/
theorem Traced.errors_eq_zero (traced : Traced platform program configuration ran project)
    (clean : project.result = .success) {worker : Worker} (member : worker ∈ ran) :
    worker.errors platform program configuration = 0 := by
  have total := traced.errorCount_eq.symm.trans (traced.clean clean)
  rw [traced.findings_eq] at total
  exact Worker.errorCount_flatMap_eq_zero_iff.mp total worker member

/-- The hardware is that of a worker that has run. -/
theorem Traced.provider (traced : Traced platform program configuration ran project)
    {used : UsedHardware} (hardware : project.products.usedHardware? = some used) :
    ∃ worker ∈ ran, worker.hardware? program configuration = some used := by
  rw [traced.hardware_eq] at hardware
  obtain ⟨worker, member, left⟩ := List.exists_of_findSome?_eq_some hardware
  exact ⟨worker, List.mem_reverse.mp member, left⟩

theorem Traced.exists_hardware (traced : Traced platform program configuration ran project)
    {worker : Worker} (member : worker ∈ ran)
    (provides : (worker.hardware? program configuration).isSome) :
    ∃ used, project.products.usedHardware? = some used := by
  rw [traced.hardware_eq]
  refine Option.isSome_iff_exists.mp (List.findSome?_isSome_iff.mpr ?_)
  exact ⟨worker, List.mem_reverse.mpr member, provides⟩

end Project

theorem compile_eq {program : Program} {configuration : Configuration} {platform : Platform}
    {workflow : String} {workers : List Worker} (defined : platform.workflow workflow = .ok workers) :
    compile program configuration platform workflow =
      .ok ⟨(Project.run platform workflow { program, configuration } workers).1,
        (Project.run platform workflow { program, configuration } workers).2⟩ := by
  unfold compile
  rw [defined]
  rfl

/-- A compilation is a run of a workflow of the platform that comes to its end, or one
    that a generator without hardware stops. -/
theorem compile_cases {program : Program} {configuration : Configuration} {platform : Platform}
    {workflow : String} {compilation : Compilation} {workers : List Worker}
    (defined : platform.workflow workflow = .ok workers)
    (compiled : compile program configuration platform workflow = .ok compilation) :
    (∃ last log, ({ program, configuration } : Project).after? platform workflow workers = some last ∧
      compilation = ⟨{ last with log }, none⟩) ∨
    ∃ before rest last log, workers = before ++ .codeGenerator :: rest ∧
      ({ program, configuration } : Project).after? platform workflow before = some last ∧
      last.products.usedHardware? = none ∧
      compilation = ⟨{ last with log }.raise .workflowError, some ⟨.codeGenerator, .usedHardware⟩⟩ := by
  have ran : compilation =
      ⟨(Project.run platform workflow { program, configuration } workers).1,
        (Project.run platform workflow { program, configuration } workers).2⟩ :=
    Except.ok.inj (compiled.symm.trans (compile_eq defined))
  rcases Project.run_cases platform workflow { program, configuration } workers with
    ⟨last, log, reached, ended⟩ | ⟨before, rest, last, log, split, reached, lacking, ended⟩
  · exact .inl ⟨last, log, reached, by rw [ran, ended]⟩
  · exact .inr ⟨before, rest, last, log, split, reached, lacking, by rw [ran, ended]⟩

/-- A run that comes to its end is reported as it ends. -/
theorem compile_eq_of_after? {program : Program} {configuration : Configuration} {platform : Platform}
    {workflow : String} {workers : List Worker} {last : Project}
    (defined : platform.workflow workflow = .ok workers)
    (reached : ({ program, configuration } : Project).after? platform workflow workers = some last) :
    ∃ log, compile program configuration platform workflow = .ok ⟨{ last with log }, none⟩ := by
  have compiled : compile program configuration platform workflow = .ok _ := compile_eq defined
  rcases compile_cases defined compiled with
    ⟨same, log, reachedSame, ended⟩ | ⟨before, rest, stopped, _, rfl, reachedStop, lacking, _⟩
  · cases reachedSame.symm.trans reached
    exact ⟨log, compiled.trans (congrArg _ ended)⟩
  · rw [Project.after?_append, reachedStop] at reached
    obtain ⟨next, worked, _⟩ := Project.after?_cons reached
    obtain ⟨used, hardware⟩ := worked.exists_hardware
    cases lacking.symm.trans hardware

end BlockSketch
