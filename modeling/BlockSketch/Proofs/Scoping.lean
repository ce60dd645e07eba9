import BlockSketch.Proofs.Ancestry

/-!
What the validator demands of the names and the repetitions of a program, said of the tree
alone (`Program.WellScoped`). The validator finds no error in a program exactly if it is
well scoped (`Program.validator_errors_eq_zero_iff`).
-/
namespace BlockSketch

/-- Names are declared once, and before they are used; repetitions are left and continued
    only from inside. -/
structure Program.WellScoped (program : Program) : Prop where
  /-- No name is declared twice. -/
  distinct : (program.task.declarations.map Declaration.name).Nodup
  /-- Variables in an initial value are declared before the one that gets it. -/
  initialReads : ∀ before declaration after,
    program.task.declarations = before ++ declaration :: after →
    ∀ label name type, (Node.expr declaration.value).Contains (.expr (.var label name type)) →
      ∃ earlier ∈ before, earlier.name = name
  /-- Variables in the body are declared. -/
  reads : ∀ label name type, program.root.Contains (.expr (.var label name type)) →
    ∃ declaration ∈ program.task.declarations, declaration.name = name
  /-- Variables that get a value are declared. -/
  targets : ∀ label name value, program.root.Contains (.stmt (.assign label name value)) →
    ∃ declaration ∈ program.task.declarations, declaration.name = name
  /-- There is a repetition around every statement that leaves or continues one. -/
  loops : ∀ ancestors label way, program.root.Reaches ancestors (.stmt (.flow label way)) →
    ∃ loop ∈ ancestors, loop.kind = .repeatStmt

/-! ## One node -/

namespace Occurrence

/-- What the validator asks of a node, its hardware apart. -/
def Sound (occurrence : Occurrence) : Prop :=
  match occurrence.node with
  | .expr (.var _ name _) => name ∈ occurrence.scope
  | .stmt (.assign _ name _) => name ∈ occurrence.scope
  | .stmt (.flow ..) => occurrence.inLoop = true
  | .declaration declaration => declaration.name ∉ occurrence.scope
  | _ => True

theorem name_quiet_iff {scope : List Identifier} {name : Identifier} :
    (∀ notice ∈ Validation.nameNotices scope name, notice.isError = false) ↔ name ∈ scope := by
  constructor
  · exact Validation.mem_scope_of_quiet
  · intro known notice noticed
    simp [Validation.nameNotices, known] at noticed

theorem quiet_iff (occurrence : Occurrence) :
    (∀ notice ∈ Validation.programNotices occurrence, notice.isError = false) ↔ occurrence.Sound := by
  obtain ⟨node, scope, inLoop⟩ := occurrence
  cases node with
  | expr part =>
    cases part with
    | var label name type => exact name_quiet_iff
    | _ => simp [Validation.programNotices, Sound]
  | stmt part =>
    cases part with
    | assign label name value => exact name_quiet_iff
    | motorOn label port power =>
      -- A constant power out of range earns a warning, which is no error.
      simp only [Validation.programNotices, Sound, iff_true]
      intro notice noticed
      obtain ⟨_, rfl⟩ := Validation.eq_warning_of_powerNotices noticed
      rfl
    | flow label way =>
      cases inLoop <;> simp [Validation.programNotices, Sound, Notice.error, Notice.isError]
    | _ => simp [Validation.programNotices, Sound]
  | declaration part =>
    by_cases known : part.name ∈ scope <;>
      simp [Validation.programNotices, Sound, known, Notice.error, Notice.isError]
  | task part => simp [Validation.programNotices, Sound]

end Occurrence

/-! ## All nodes -/

/-- Names are distinct if each is new where it is declared. -/
theorem Declaration.nodup_names_iff {declarations : List Declaration} :
    (declarations.map Declaration.name).Nodup ↔
      ∀ before declaration after, declarations = before ++ declaration :: after →
        declaration.name ∉ before.map Declaration.name := by
  constructor
  · rintro distinct before declaration after rfl
    rw [List.map_append, List.map_cons, List.nodup_append] at distinct
    intro known
    exact distinct.2.2 _ known _ List.mem_cons_self rfl
  · intro fresh
    induction declarations using List.reverseRecOn with
    | nil => exact List.nodup_nil
    | append_singleton earlier last ih =>
      have new : last.name ∉ earlier.map Declaration.name := fresh earlier last [] rfl
      have distinct := ih fun before declaration after split =>
        fresh before declaration (after ++ [last]) (by simp [split])
      rw [List.map_append, List.nodup_append]
      refine ⟨distinct, by simp, ?_⟩
      rintro name known other isLast rfl
      rw [List.map_singleton, List.mem_singleton] at isLast
      exact new (isLast ▸ known)

namespace Program
variable {program : Program}

theorem validator_errors_eq_zero_iff_sound {platform : Platform} {configuration : Configuration} :
    Worker.validator.errors platform program configuration = 0 ↔
      ∀ occurrence ∈ program.occurrences, occurrence.Sound := by
  simp only [Worker.errors, Worker.findings, Finding.errorCount_eq_zero_iff, validate,
    List.forall_mem_flatMap, Validation.nodeFindings, Validation.notices, Validation.hardwareNotices,
    List.nil_append, List.forall_mem_map, Occurrence.quiet_iff]

theorem wellScoped_of_sound (sound : ∀ occurrence ∈ program.occurrences, occurrence.Sound) :
    program.WellScoped := by
  have inBody {occurrence : Occurrence}
      (member : occurrence ∈ program.root.occurrences program.names false) : occurrence.Sound :=
    sound occurrence (mem_occurrences_iff.mpr (.inr (.inr member)))
  refine ⟨?_, ?_, ?_, ?_, ?_⟩
  · refine Declaration.nodup_names_iff.mpr fun before declaration after split => ?_
    exact sound _ (mem_occurrences_iff.mpr (.inr (.inl ⟨before, declaration, after, split, .inl rfl⟩)))
  · rintro before declaration after split label name type ⟨ancestors, reached⟩
    obtain ⟨flag, member, _⟩ := reached.occurs rfl (before.map Declaration.name) false
    have known := sound _ (mem_occurrences_iff.mpr (.inr (.inl ⟨before, declaration, after, split, .inr member⟩)))
    exact List.mem_map.mp known
  · rintro label name type ⟨ancestors, reached⟩
    obtain ⟨flag, member, _⟩ := reached.occurs rfl program.names false
    exact List.mem_map.mp (inBody member)
  · rintro label name value ⟨ancestors, reached⟩
    obtain ⟨flag, member, _⟩ := reached.occurs rfl program.names false
    exact List.mem_map.mp (inBody member)
  · intro ancestors label way reached
    obtain ⟨flag, member, flagged⟩ := reached.occurs rfl program.names false
    have inLoop : flag = true := inBody member
    rw [flagged rfl, Bool.false_or] at inLoop
    simpa [Node.isLoop] using inLoop

namespace WellScoped
variable (well : program.WellScoped)
include well

theorem sound_of_initial {before after : List Declaration} {declaration : Declaration}
    (split : program.task.declarations = before ++ declaration :: after) {occurrence : Occurrence}
    (member : occurrence ∈ (Node.expr declaration.value).occurrences (before.map Declaration.name) false) :
    occurrence.Sound := by
  obtain ⟨part, inside, rfl⟩ := List.mem_map.mp member
  cases part with
  | var label name type =>
    obtain ⟨ancestors, reached, _⟩ := Node.reaches_of_mem rfl member
    exact List.mem_map.mpr (well.initialReads before declaration after split label name type ⟨_, reached⟩)
  | _ => trivial

theorem sound_of_body {occurrence : Occurrence}
    (member : occurrence ∈ program.root.occurrences program.names false) : occurrence.Sound := by
  obtain ⟨sees, isPart⟩ := Sequence.share_occurrences _ _ _ member
  obtain ⟨ancestors, reached, flagged⟩ := Node.reaches_of_mem rfl member
  obtain ⟨node, scope, inLoop⟩ := occurrence
  obtain rfl : scope = program.names := sees
  cases node with
  | expr part =>
    cases part with
    | var label name type => exact List.mem_map.mpr (well.reads label name type ⟨_, reached⟩)
    | _ => trivial
  | stmt part =>
    cases part with
    | assign label name value => exact List.mem_map.mpr (well.targets label name value ⟨_, reached⟩)
    | flow label way =>
      have around := well.loops ancestors label way reached
      have flag : inLoop = (false || ancestors.any Node.isLoop) := flagged rfl
      show inLoop = true
      rw [flag, Bool.false_or, List.any_eq_true]
      simpa [Node.isLoop] using around
    | _ => trivial
  | declaration inner => cases isPart
  | task inner => cases isPart

theorem sound : ∀ occurrence ∈ program.occurrences, occurrence.Sound := by
  intro occurrence member
  rcases mem_occurrences_iff.mp member with
    rfl | ⟨before, declaration, after, split, rfl | inside⟩ | inside
  · trivial
  · exact Declaration.nodup_names_iff.mp well.distinct before declaration after split
  · exact well.sound_of_initial split inside
  · exact well.sound_of_body inside

end WellScoped

/-- The validator finds no error in a program exactly if it is well scoped. -/
theorem validator_errors_eq_zero_iff {platform : Platform} {configuration : Configuration} :
    Worker.validator.errors platform program configuration = 0 ↔ program.WellScoped :=
  validator_errors_eq_zero_iff_sound.trans ⟨wellScoped_of_sound, WellScoped.sound⟩

end Program
end BlockSketch
