import BlockSketch.Proofs.Ending

/-!
The plain validator and the one that knows the configuration differ in hardware only. With a
configuration there are the same notices as without one, and those about components that blocks
name besides; and the same hardware is recorded, less what is not configured as it is needed. So
a sketch that is made after the check against the configuration is made after the plain check
too, and it is the same one.
-/
namespace BlockSketch

/-! ## Notices about hardware -/

/-- Whether the message says that a component which a block names is not configured, or is
    configured with another type. -/
def MessageKey.isHardware : MessageKey → Bool
  | sensorMissing | sensorWrong | actorMissing | actorWrong => true
  | _ => false

def Notice.isHardware (notice : Notice) : Bool :=
  notice.message.isHardware

@[simp] theorem HardwareRole.isHardware_missing (role : HardwareRole) : role.missing.isHardware = true := by
  cases role <;> rfl

@[simp] theorem HardwareRole.isHardware_wrong (role : HardwareRole) : role.wrong.isHardware = true := by
  cases role <;> rfl

namespace Validation
variable {configuration : Option Configuration} {occurrence : Occurrence} {notice : Notice}

/-- What is said about the component of a block is about hardware, and an error. -/
theorem hardware_of_hardwareNotices {node : Node} (noticed : notice ∈ hardwareNotices configuration node) :
    notice.isHardware = true ∧ notice.isError = true := by
  unfold hardwareNotices at noticed
  split at noticed
  · next wiring use _ =>
    cases wired : use.wired wiring with
    | right => simp [componentNotices, wired] at noticed
    | missing =>
      simp only [componentNotices, wired, List.mem_singleton] at noticed
      subst noticed
      exact ⟨use.role.isHardware_missing, rfl⟩
    | wrong found =>
      simp only [componentNotices, wired, List.mem_singleton] at noticed
      subst noticed
      exact ⟨use.role.isHardware_wrong, rfl⟩
  · cases noticed

theorem not_hardware_of_nameNotices {scope : List Identifier} {name : Identifier}
    (noticed : notice ∈ nameNotices scope name) : notice.isHardware = false := by
  unfold nameNotices at noticed
  split at noticed
  · cases noticed
  · cases List.mem_singleton.mp noticed
    rfl

theorem not_hardware_of_powerNotices {power : Expr} (noticed : notice ∈ powerNotices power) :
    notice.isHardware = false := by
  obtain ⟨_, rfl⟩ := eq_warning_of_powerNotices noticed
  rfl

/-- Nothing else that is said about a node is about hardware. -/
theorem not_hardware_of_programNotices (noticed : notice ∈ programNotices occurrence) :
    notice.isHardware = false := by
  unfold programNotices at noticed
  split at noticed
  · exact not_hardware_of_nameNotices noticed
  · exact not_hardware_of_nameNotices noticed
  · exact not_hardware_of_powerNotices noticed
  · split at noticed
    · cases noticed
    · cases List.mem_singleton.mp noticed
      rfl
  · split at noticed
    · cases List.mem_singleton.mp noticed
      rfl
    · cases noticed
  · cases noticed

/-- Without the hardware, what is said about a node does not depend on the configuration. -/
theorem filter_notices (configuration : Option Configuration) (occurrence : Occurrence) :
    (notices configuration occurrence).filter (fun notice => !notice.isHardware) =
      notices none occurrence := by
  have hardware : (hardwareNotices configuration occurrence.node).filter (fun notice => !notice.isHardware) =
      [] := by
    refine List.filter_eq_nil_iff.mpr fun notice noticed => ?_
    simp [(hardware_of_hardwareNotices noticed).1]
  have others : (programNotices occurrence).filter (fun notice => !notice.isHardware) =
      programNotices occurrence := by
    refine List.filter_eq_self.mpr fun notice noticed => ?_
    simp [not_hardware_of_programNotices noticed]
  rw [notices, List.filter_append, hardware, others]
  rfl

end Validation

/-! ## The notices of a program -/

namespace Program
variable (program : Program) (configuration : Configuration)

theorem filter_validate (against : Option Configuration) (keep : Notice → Bool) :
    (program.validate against).filter (fun finding => keep finding.notice) =
      program.occurrences.flatMap fun occurrence =>
        ((Validation.notices against occurrence).filter keep).map fun notice =>
          ⟨.block occurrence.node.label.position, notice⟩ := by
  simp only [validate, Validation.nodeFindings, List.filter_flatMap, List.filter_map, Function.comp_def]

/-- The findings about hardware. -/
def hardwareFindings : List Finding :=
  (program.validate (some configuration)).filter fun finding => finding.notice.isHardware

theorem validate_without_hardware :
    ((program.validate (some configuration)).filter fun finding => !finding.notice.isHardware) =
      program.validate none := by
  rw [program.filter_validate (some configuration) fun notice => !notice.isHardware]
  simp only [Validation.filter_notices]
  rfl

variable {program configuration}

theorem isError_of_hardwareFindings {finding : Finding}
    (found : finding ∈ program.hardwareFindings configuration) : finding.notice.isError = true := by
  obtain ⟨found, isHardware⟩ := List.mem_filter.mp found
  obtain ⟨occurrence, _, found⟩ := List.mem_flatMap.mp found
  obtain ⟨notice, noticed, rfl⟩ := List.mem_map.mp found
  rcases List.mem_append.mp noticed with hardware | other
  · exact (Validation.hardware_of_hardwareNotices hardware).2
  · cases (Validation.not_hardware_of_programNotices other).symm.trans isHardware

theorem errorCount_validate_some :
    Finding.errorCount (program.validate (some configuration)) =
      Finding.errorCount (program.validate none) + (program.hardwareFindings configuration).length := by
  have hardware : Finding.errorCount (program.hardwareFindings configuration) =
      (program.hardwareFindings configuration).length :=
    List.countP_eq_length.mpr fun _ found => isError_of_hardwareFindings found
  rw [← program.validate_without_hardware configuration, ← hardware, Nat.add_comm]
  exact List.countP_eq_countP_filter_add _ _ _

/-! ## The hardware of a program -/

/-- Where there is no notice about hardware, every block finds its component. -/
theorem wired_of_no_hardwareFindings (none : program.hardwareFindings configuration = [])
    {occurrence : Occurrence} (member : occurrence ∈ program.occurrences) {use : ComponentUse}
    (uses : occurrence.node.componentUse? = some use) : use.wired configuration = .right := by
  refine Validation.wired_of_quiet fun notice noticed => ?_
  have hardware : notice ∈ Validation.hardwareNotices (some configuration) occurrence.node := by
    simpa [Validation.hardwareNotices, uses] using noticed
  have found := Validation.finding_mem_validate member (List.mem_append_left _ hardware)
  have listed : _ ∈ program.hardwareFindings configuration :=
    List.mem_filter.mpr ⟨found, (Validation.hardware_of_hardwareNotices hardware).1⟩
  rw [none] at listed
  cases listed

theorem usedHardware_of_no_hardwareFindings (none : program.hardwareFindings configuration = []) :
    program.usedHardware (some configuration) = program.usedHardware .none :=
  usedHardware_eq_of_wired fun _ member _ uses => wired_of_no_hardwareFindings none member uses

theorem usedHardware_components_subset :
    (program.usedHardware (some configuration)).components ⊆ (program.usedHardware none).components := by
  intro name used
  simp only [usedHardware, UsedHardware.of, List.mem_eraseDups, List.mem_map, List.mem_filter] at used ⊢
  obtain ⟨use, ⟨member, _⟩, rfl⟩ := used
  exact ⟨use, ⟨member, rfl⟩, rfl⟩

end Program

/-! ## Sketches -/

/-- A generator right after a validator makes a source exactly if the validator has found no
    error and there is a sketch with the hardware that it leaves. -/
theorem Compilation.source_after_validator {platform : Platform} {workflow : String} {program : Program}
    {configuration : Configuration} {worker : Worker} {used : UsedHardware}
    (provides : worker.hardware? program configuration = some used) {source : String} :
    (ofRun platform workflow program configuration [worker, .codeGenerator]).report.source = some source ↔
      worker.errors platform program configuration = 0 ∧ program.generate configuration used = .ok source := by
  have notGenerator : worker ≠ .codeGenerator := by
    rintro rfl
    cases provides
  have start : ({ program, configuration } : Project).after? platform workflow [] =
      some { program, configuration } := rfl
  obtain ⟨checked, reached⟩ := Project.exists_after?_concat start
    fun isGenerator => absurd isGenerator notGenerator
  obtain ⟨_, same, worked⟩ := Project.after?_concat reached
  cases start.symm.trans same
  obtain ⟨verdict, unstored⟩ := worked.checked notGenerator
  have clean : checked.result = .success ↔ worker.errors platform program configuration = 0 := by
    rw [verdict, Verdict.success_worse, Verdict.ofErrors_eq_success_iff]
  have hardware : checked.products.usedHardware? = some used := by
    rw [worked.hardware_eq, provides]
    rfl
  obtain ⟨last, ended⟩ := Project.exists_after?_concat reached fun isGenerator : .codeGenerator = _ =>
    ⟨used, hardware⟩
  obtain ⟨_, same, generated⟩ := Project.after?_concat ended
  cases reached.symm.trans same
  have listed : (ofRun platform workflow program configuration [worker, .codeGenerator]).report.source =
      last.source :=
    congrArg (fun ended => ended.report.source) (ofRun_of_after? ended)
  rw [listed, ← clean]
  cases generated.generated rfl with
  | stored found made isFound good done _ kept =>
    cases hardware.symm.trans isFound
    rw [worked.program_eq, worked.configuration_eq] at done
    simp [kept, good, done]
  | failed found error isFound good refused _ kept =>
    cases hardware.symm.trans isFound
    rw [worked.program_eq, worked.configuration_eq] at refused
    simp [kept, unstored, refused]
  | skipped found isFound faulty _ kept => simp [kept, unstored, faulty]

/-- The validator that knows the configuration says what the plain one says, and what is wrong
    with the hardware besides; only these notices make the difference in the number of errors.
    Both record the same timers, the same use of the serial line and of the light, and the
    same components, less those that are not configured as they are needed. So where a sketch
    is made after the check against the configuration, the plain check leads to it as well. -/
theorem validators_agree (program : Program) (configuration : Configuration) :
    let bound := program.validate (some configuration)
    let plain := program.validate none
    let hardware := bound.filter fun finding => finding.notice.isHardware
    let used := program.usedHardware (some configuration)
    let usedPlain := program.usedHardware none
    (∀ place, (Finding.noticesAt bound place).filter (fun notice => !notice.isHardware) =
      Finding.noticesAt plain place) ∧
    Finding.errorCount bound = Finding.errorCount plain + hardware.length ∧
    used.timers = usedPlain.timers ∧ used.serial = usedPlain.serial ∧
      used.brickLight = usedPlain.brickLight ∧
    used.components ⊆ usedPlain.components ∧
    (hardware = [] → used.components = usedPlain.components) ∧
    ∀ platform workflow source,
      (Compilation.ofRun platform workflow program configuration
        [.configurationValidator, .codeGenerator]).report.source = some source →
      (Compilation.ofRun platform workflow program configuration
        [.validator, .codeGenerator]).report.source = some source := by
  intro bound plain hardware used usedPlain
  refine ⟨fun place => ?_, Program.errorCount_validate_some, rfl, rfl, rfl,
    Program.usedHardware_components_subset, fun none => ?_, fun platform workflow source made => ?_⟩
  · have same := congrArg (Finding.noticesAt · place) (program.validate_without_hardware configuration)
    rw [← same]
    simp only [Finding.noticesAt, List.filter_filter, List.filter_map, Function.comp_def, bound]
    simp only [Bool.and_comm]
  · exact congrArg UsedHardware.components (Program.usedHardware_of_no_hardwareFindings none)
  · obtain ⟨quiet, generated⟩ := (Compilation.source_after_validator rfl).mp made
    refine (Compilation.source_after_validator rfl).mpr ?_
    rw [Worker.errors, Worker.findings, Finding.errorCount_append, Program.errorCount_validate_some] at quiet
    have none : program.hardwareFindings configuration = [] := List.length_eq_zero_iff.mp (by omega)
    refine ⟨?_, ?_⟩
    · show Finding.errorCount (program.validate .none) = 0
      omega
    · rw [← Program.usedHardware_of_no_hardwareFindings none]
      exact generated

/-- Keeps a distance in a variable that is not declared, and drives too fast. -/
def Program.stranded : Program where
  task := ⟨⟨[0], {}⟩, []⟩
  body := .mk ⟨[1], {}⟩ [
    .assign ⟨[0, 1], {}⟩ ⟨"gap", by decide⟩ (.sensor ⟨[0, 0, 1], {}⟩ .ultrasonic ⟨"bat", by decide⟩),
    .motorOn ⟨[1, 1], {}⟩ ⟨"tread", by decide⟩
      (.number ⟨[0, 1, 1], {}⟩ ⟨"150", ⟨false, 150 * Double.one⟩, by decide +kernel⟩)]

/-- The sketch of the program that shows a distance is the same after both validators. Without
    the two components of the other program there are two errors more, one of them at the node
    that is warned of its power. -/
theorem sonar_validators_agree :
    (Program.sonar.hardwareFindings .sonar = [] ∧
      (Program.sonar.usedHardware (some .sonar)).components = (Program.sonar.usedHardware none).components ∧
      ∃ source,
        (Compilation.ofRun .arduinoUno "checked" .sonar .sonar
          [.configurationValidator, .codeGenerator]).report.source = some source ∧
        (Compilation.ofRun .arduinoUno "checked" .sonar .sonar
          [.validator, .codeGenerator]).report.source = some source) ∧
    let bound := Program.stranded.validate (some .empty)
    let plain := Program.stranded.validate none
    let hardware := Program.stranded.hardwareFindings .empty
    (hardware.length = 2 ∧ Finding.errorCount plain = 1 ∧
      Finding.errorCount bound = Finding.errorCount plain + hardware.length) ∧
    ((Finding.noticesAt bound (.block [1, 1])).length = 2 ∧
      (Finding.noticesAt plain (.block [1, 1])).length = 1 ∧
      (Finding.noticesAt bound (.block [1, 1])).filter (fun notice => !notice.isHardware) =
        Finding.noticesAt plain (.block [1, 1])) ∧
    (Program.stranded.usedHardware none).components.length = 2 ∧
      (Program.stranded.usedHardware (some .empty)).components ⊆
        (Program.stranded.usedHardware none).components := by
  refine ⟨?_, ?_⟩
  · obtain ⟨_, _, _, _, _, _, same, sources⟩ := validators_agree .sonar .sonar
    have none : Program.sonar.hardwareFindings .sonar = [] := by decide +kernel
    have made : (Compilation.ofRun .arduinoUno "checked" .sonar .sonar
        [.configurationValidator, .codeGenerator]).report.source.isSome = true := by decide +kernel
    obtain ⟨source, isSource⟩ := Option.isSome_iff_exists.mp made
    exact ⟨none, same none, source, isSource, sources _ _ _ isSource⟩
  · intro bound plain hardware
    obtain ⟨notices, count, _, _, _, fewer, _, _⟩ := validators_agree .stranded .empty
    exact ⟨⟨by decide +kernel, by decide +kernel, count⟩, ⟨by decide +kernel, by decide +kernel, notices _⟩,
      by decide +kernel, fewer⟩

end BlockSketch
