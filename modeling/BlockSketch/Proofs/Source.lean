import BlockSketch.Proofs.Diagnostics
import BlockSketch.Proofs.Generation

/-!
When a report has a source. A generator stores a source only while the verdict is good,
but nothing takes the source away again, and workers that come later may still find
errors. So a report with a source has a good verdict exactly if none of the later workers
finds one.
-/
namespace BlockSketch

namespace Project
variable {platform : Platform} {workflow : String} {program : Program} {configuration : Configuration}
  {ran : List Worker} {project : Project}

/-- A generator that comes after these workers finds a good verdict and makes this
    source. -/
def Stores (platform : Platform) (workflow : String) (program : Program) (configuration : Configuration)
    (before : List Worker) (source : String) : Prop :=
  ∃ project used, ({ program, configuration } : Project).after? platform workflow before = some project ∧
    project.result = .success ∧ project.products.usedHardware? = some used ∧
    program.generate configuration used = .ok source

/-- While the verdict is good, the hardware does not depend on the validator that has
    found it. -/
theorem Traced.usedHardware_of_clean (traced : Traced platform program configuration ran project)
    (clean : project.result = .success) {used : UsedHardware}
    (hardware : project.products.usedHardware? = some used) : used = program.usedHardware none := by
  obtain ⟨worker, member, found⟩ := traced.provider hardware
  cases worker with
  | validator => exact (Option.some.inj found).symm
  | configurationValidator =>
    have checked := traced.checked clean member
    rw [← checked.usedHardware_eq]
    exact (Option.some.inj found).symm
  | typeCheck => cases found
  | codeGenerator => cases found

theorem Stores.generates {source : String}
    (stores : Stores platform workflow program configuration ran source) :
    program.generate configuration (program.usedHardware none) = .ok source := by
  obtain ⟨project, used, reached, clean, hardware, made⟩ := stores
  rw [← (traced reached).usedHardware_of_clean clean hardware]
  exact made

/-- Wherever a generator works while the verdict is good, it makes the same source. -/
theorem Traced.generate_of_stores (traced : Traced platform program configuration ran project)
    {before : List Worker} {source : String} {used : UsedHardware}
    (stores : Stores platform workflow program configuration before source)
    (clean : project.result = .success) (hardware : project.products.usedHardware? = some used) :
    project.program.generate project.configuration used = .ok source := by
  rw [traced.program_eq, traced.configuration_eq, traced.usedHardware_of_clean clean hardware]
  exact stores.generates

/-- A source comes from a generator of the run, and from then on only the errors in the
    program count. -/
theorem stores_of_source {source : String}
    (reached : ({ program, configuration } : Project).after? platform workflow ran = some project)
    (present : project.source = some source) :
    (∃ before after, ran = before ++ .codeGenerator :: after ∧
      Stores platform workflow program configuration before source) ∧
    project.result = .ofErrors project.errorCount := by
  induction ran using List.reverseRecOn generalizing project with
  | nil =>
    cases reached
    cases present
  | append_singleton ran worker ih =>
    obtain ⟨before, earlier, worked⟩ := after?_concat reached
    have trace := traced earlier
    have later : (∃ first rest, ran = first ++ .codeGenerator :: rest ∧
          Stores platform workflow program configuration first source) →
        ∃ first rest, ran ++ [worker] = first ++ .codeGenerator :: rest ∧
          Stores platform workflow program configuration first source := by
      rintro ⟨first, rest, rfl, stores⟩
      exact ⟨first, rest ++ [worker], by simp, stores⟩
    by_cases isGenerator : worker = .codeGenerator
    · subst isGenerator
      have errorCount : project.errorCount = before.errorCount := worked.errorCount_eq
      cases worked.generated rfl with
      | stored used made hardware clean generated result kept =>
        obtain rfl : made = source := Option.some.inj (kept.symm.trans present)
        rw [trace.program_eq, trace.configuration_eq] at generated
        refine ⟨⟨ran, [], rfl, before, used, earlier, clean, hardware, generated⟩, ?_⟩
        rw [result, errorCount, trace.clean clean]
        rfl
      | failed used error hardware clean refused _ kept =>
        -- The source that is there was made from the same hardware, so this one cannot fail.
        obtain ⟨⟨_, _, _, stores⟩, _⟩ := ih earlier (kept.symm.trans present)
        cases (trace.generate_of_stores stores clean hardware).symm.trans refused
      | skipped used hardware faulty result kept =>
        obtain ⟨stored, verdict⟩ := ih earlier (kept.symm.trans present)
        exact ⟨later stored, by rw [result, errorCount, verdict]⟩
    · obtain ⟨result, kept⟩ := worked.checked isGenerator
      obtain ⟨stored, verdict⟩ := ih earlier (kept.symm.trans present)
      refine ⟨later stored, ?_⟩
      rw [result, verdict, worked.errorCount_eq]
      simpa using Verdict.worse_ofErrors_add .success before.errorCount _

/-- No error is found before the source is stored. -/
theorem Stores.errorCount_eq_zero {source : String}
    (stores : Stores platform workflow program configuration ran source) :
    Finding.errorCount (ran.flatMap (Worker.findings platform program configuration)) = 0 := by
  obtain ⟨project, used, reached, clean, _, _⟩ := stores
  have trace := traced reached
  rw [← trace.findings_eq, ← trace.errorCount_eq]
  exact trace.clean clean

section
variable {before after : List Worker} {source : String}
  (traced : Traced platform program configuration (before ++ .codeGenerator :: after) project)
  (stores : Stores platform workflow program configuration before source)
include traced stores

/-- The errors of a run are those that its workers find after the source is stored. -/
theorem Traced.errorCount_of_stores :
    project.errorCount =
      Finding.errorCount (after.flatMap (Worker.findings platform program configuration)) := by
  rw [traced.errorCount_eq, traced.findings_eq, List.flatMap_append, Finding.errorCount_append,
    stores.errorCount_eq_zero, Nat.zero_add]
  rfl

/-- They are the errors that are listed. -/
theorem Traced.errors_of_stores (distinct : (Occurrence.positions program.occurrences).Nodup) :
    ((project.diagnostics.map Diagnostic.notice).filter Notice.isError).Perm
      (((after.flatMap (Worker.findings platform program configuration)).map Finding.notice).filter
        Notice.isError) := by
  have listed := (traced.notices_perm distinct).filter Notice.isError
  have earlier : ((before.flatMap (Worker.findings platform program configuration)).map Finding.notice).filter
      Notice.isError = [] := by
    refine List.filter_eq_nil_iff.mpr fun notice member => ?_
    obtain ⟨finding, found, rfl⟩ := List.mem_map.mp member
    exact Bool.not_eq_true _ ▸ Finding.errorCount_eq_zero_iff.mp stores.errorCount_eq_zero finding found
  rwa [List.flatMap_append, List.map_append, List.filter_append, earlier, List.nil_append] at listed

end

/-- Once a source is stored, a generator never lacks the hardware. -/
theorem Traced.exists_hardware_of_stores {before after : List Worker} {source : String}
    (traced : Traced platform program configuration (before ++ after) project)
    (stores : Stores platform workflow program configuration before source) :
    ∃ used, project.products.usedHardware? = some used := by
  obtain ⟨found, used, reached, _, hardware, _⟩ := stores
  obtain ⟨worker, member, provides⟩ := (Project.traced reached).provider hardware
  exact traced.exists_hardware (List.mem_append_left _ member) (by rw [provides]; rfl)

/-- A source that is stored is never lost. -/
theorem source_of_stores {before after : List Worker} {source : String}
    (stores : Stores platform workflow program configuration before source)
    (reached : ({ program, configuration } : Project).after? platform workflow
      (before ++ .codeGenerator :: after) = some project) : project.source = some source := by
  induction after using List.reverseRecOn generalizing project with
  | nil =>
    obtain ⟨found, earlier, worked⟩ := after?_concat reached
    have trace := traced earlier
    have clean : found.result = .success := by
      obtain ⟨same, _, reachedSame, clean, _, _⟩ := stores
      cases earlier.symm.trans reachedSame
      exact clean
    cases worked.generated rfl with
    | stored used made hardware _ generated _ kept =>
      cases (trace.generate_of_stores stores clean hardware).symm.trans generated
      exact kept
    | failed used error hardware _ refused _ _ =>
      cases (trace.generate_of_stores stores clean hardware).symm.trans refused
    | skipped _ _ faulty _ _ => exact absurd clean faulty
  | append_singleton after worker ih =>
    rw [← List.cons_append, ← List.append_assoc] at reached
    obtain ⟨found, earlier, worked⟩ := after?_concat reached
    have trace := traced earlier
    have present := ih earlier
    by_cases isGenerator : worker = .codeGenerator
    · cases worked.generated isGenerator with
      | stored known text hardware clean generated _ kept =>
        cases (trace.generate_of_stores stores clean hardware).symm.trans generated
        exact kept
      | failed _ _ _ _ _ _ kept => exact kept.trans present
      | skipped _ _ _ _ kept => exact kept.trans present
    · exact (worked.checked isGenerator).2.trans present

/-- A run in which a source is stored is never stopped. -/
theorem exists_after?_of_stores {before : List Worker} {source : String}
    (stores : Stores platform workflow program configuration before source) (after : List Worker) :
    ∃ project, ({ program, configuration } : Project).after? platform workflow
      (before ++ .codeGenerator :: after) = some project := by
  induction after using List.reverseRecOn with
  | nil =>
    obtain ⟨found, used, reached, _, hardware, _⟩ := stores
    exact exists_after?_concat reached fun _ => ⟨used, hardware⟩
  | append_singleton after worker ih =>
    obtain ⟨found, earlier⟩ := ih
    rw [← List.cons_append, ← List.append_assoc]
    exact exists_after?_concat earlier fun _ => (traced earlier).exists_hardware_of_stores stores

end Project

/-- What a generator of the workflow stores is the source of the report. -/
theorem compile_of_stores {program : Program} {configuration : Configuration} {platform : Platform}
    {workflow : String} {before after : List Worker} {source : String}
    (defined : platform.workflow workflow = .ok (before ++ .codeGenerator :: after))
    (stores : Project.Stores platform workflow program configuration before source) :
    ∃ compilation, compile program configuration platform workflow = .ok compilation ∧
      compilation.report.source = some source := by
  obtain ⟨last, reached⟩ := Project.exists_after?_of_stores stores after
  obtain ⟨log, compiled⟩ := compile_eq_of_after? defined reached
  exact ⟨_, compiled, Project.source_of_stores stores reached⟩

/-- A report with a source is one of a workflow that was not stopped. Its errors are those
    that workers have found after the source was stored; the verdict is good exactly if
    there are none, and otherwise it is that the program is invalid. For a program that was
    built, they are the errors that the report lists. -/
theorem result_of_source {program : Program} {configuration : Configuration} {platform : Platform}
    {workflow : String} {workers : List Worker} {compilation : Compilation} {source : String}
    (defined : platform.workflow workflow = .ok workers)
    (compiled : compile program configuration platform workflow = .ok compilation)
    (present : compilation.report.source = some source) :
    compilation.report.workflowError = none ∧
      ∃ before after, workers = before ++ .codeGenerator :: after ∧
        Project.Stores platform workflow program configuration before source ∧
        compilation.report.errorCount =
          Finding.errorCount (after.flatMap (Worker.findings platform program configuration)) ∧
        (compilation.report.result = .success ↔
          ∀ worker ∈ after, worker.errors platform program configuration = 0) ∧
        (compilation.report.result ≠ .success → compilation.report.result = .invalidStatements) ∧
        ∀ draft : Draft.Program, draft.build = .ok program →
          ((compilation.report.diagnostics.map Diagnostic.notice).filter Notice.isError).Perm
            (((after.flatMap (Worker.findings platform program configuration)).map Finding.notice).filter
              Notice.isError) := by
  rcases compile_cases defined compiled with
    ⟨last, log, reached, rfl⟩ | ⟨ran, rest, last, log, split, reached, lacking, rfl⟩
  · obtain ⟨⟨before, after, rfl, stores⟩, result⟩ := Project.stores_of_source reached present
    have traced := Project.traced reached
    have errorCount := traced.errorCount_of_stores stores
    refine ⟨rfl, before, after, rfl, stores, errorCount, ?_, ?_, fun draft built =>
      traced.errors_of_stores stores (Draft.Program.positions_nodup built)⟩
    · show last.result = .success ↔ _
      rw [result, Verdict.ofErrors_eq_success_iff, errorCount]
      exact Worker.errorCount_flatMap_eq_zero_iff
    · show last.result ≠ .success → last.result = .invalidStatements
      rw [result]
      exact (Verdict.ofErrors_cases _).resolve_left
  · obtain ⟨⟨before, after, rfl, stores⟩, _⟩ := Project.stores_of_source reached present
    obtain ⟨used, hardware⟩ := (Project.traced reached).exists_hardware_of_stores stores
    rw [lacking] at hardware
    cases hardware

/-- Waits for a time that is a text. -/
def Program.impatient : Program where
  task := ⟨⟨[0], {}⟩, []⟩
  body := .mk ⟨[1], {}⟩ [.wait ⟨[0, 1], {}⟩ (.text ⟨[0, 0, 1], {}⟩ "soon")]

def Draft.Program.impatient : Draft.Program where
  declarations := []
  body := [.wait {} (.text {} "soon")]

/-- Checks the types only when the source is stored. -/
def Platform.late : Platform where
  name := "late"
  freePins := []
  overlappingRoles := []
  workflows := [("compile", [.validator, .codeGenerator, .typeCheck])]

theorem late_error_keeps_source :
    ∃ compilation, compile .impatient .empty .late "compile" = .ok compilation ∧
      compilation.report.source.isSome = true ∧
      compilation.report.result = .invalidStatements ∧ compilation.report.errorCount = 1 :=
  ⟨_, compile_eq rfl, by rfl, by rfl, by rfl⟩

/-- The one error is that of the type check. -/
theorem result_of_late_error :
    Draft.Program.impatient.build = .ok .impatient ∧
    ∃ compilation source, compile .impatient .empty .late "compile" = .ok compilation ∧
      compilation.report.source = some source ∧ compilation.report.workflowError = none ∧
      ∃ before after, [.validator, .codeGenerator, .typeCheck] = before ++ .codeGenerator :: after ∧
        Project.Stores .late "compile" .impatient .empty before source ∧
        compilation.report.errorCount =
          Finding.errorCount (after.flatMap (Worker.findings .late .impatient .empty)) ∧
        (compilation.report.result = .success ↔
          ∀ worker ∈ after, worker.errors .late .impatient .empty = 0) ∧
        (compilation.report.result ≠ .success → compilation.report.result = .invalidStatements) ∧
        ((compilation.report.diagnostics.map Diagnostic.notice).filter Notice.isError).Perm
          (((after.flatMap (Worker.findings .late .impatient .empty)).map Finding.notice).filter
            Notice.isError) := by
  have built : Draft.Program.impatient.build = .ok .impatient := rfl
  have defined : Platform.late.workflow "compile" = .ok [.validator, .codeGenerator, .typeCheck] := rfl
  have compiled := @compile_eq .impatient .empty .late "compile" _ defined
  refine ⟨built, _, _, compiled, by rfl, ?_⟩
  obtain ⟨whole, before, after, split, stores, count, verdict, invalid, errors⟩ :=
    result_of_source defined compiled (by rfl)
  exact ⟨whole, before, after, split, stores, count, verdict, invalid, errors _ built⟩

end BlockSketch
