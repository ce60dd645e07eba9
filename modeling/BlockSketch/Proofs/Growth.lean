import BlockSketch.Project.Workflow

/-!
Work on a project only adds to it (`Project.Extends`). Whatever state a project is in and
whichever workers come, its program and its configuration stay as they are, notices and errors
are added and never taken back, the verdict never gets better, and a kind of product that is
there stays there. A run that is stopped halfway is no exception.
-/
namespace BlockSketch

theorem Finding.noticesAt_prefix_append (earlier later : List Finding) (place : Place) :
    noticesAt earlier place <+: noticesAt (earlier ++ later) place := by
  rw [noticesAt_append]
  exact List.prefix_append _ _

namespace Products

/-- A product takes the place of one of its own kind only. -/
theorem has_insert_of_has {products : Products} {kind : ProductKind} (present : products.has kind = true)
    (product : Product) : (products.insert product).has kind = true := by
  obtain ⟨old, member, isKind⟩ := List.any_eq_true.mp present
  refine List.any_eq_true.mpr ?_
  unfold insert
  split
  · refine ⟨_, List.mem_map_of_mem member, ?_⟩
    by_cases replaced : old.kind = product.kind
    · rwa [if_pos replaced, ← replaced]
    · rwa [if_neg replaced]
  · exact ⟨old, List.mem_append_left _ member, isKind⟩

end Products

namespace Project

/-- The later project is the earlier one with nothing taken away: the same program and the
    same configuration, at every node and component the old notices and perhaps more, no
    fewer errors, no better a verdict, and products of all the kinds that there were. -/
structure Extends (before after : Project) : Prop where
  program_eq : after.program = before.program
  configuration_eq : after.configuration = before.configuration
  notices_prefix : ∀ place,
    Finding.noticesAt before.findings place <+: Finding.noticesAt after.findings place
  errorCount_le : before.errorCount ≤ after.errorCount
  result_le : before.result.rank ≤ after.result.rank
  products_kept : ∀ kind, before.products.has kind = true → after.products.has kind = true

theorem Extends.refl (project : Project) : project.Extends project :=
  ⟨rfl, rfl, fun _ => List.prefix_rfl, Nat.le_refl _, Nat.le_refl _, fun _ present => present⟩

theorem Extends.trans {first middle last : Project} (earlier : first.Extends middle)
    (later : middle.Extends last) : first.Extends last where
  program_eq := later.program_eq.trans earlier.program_eq
  configuration_eq := later.configuration_eq.trans earlier.configuration_eq
  notices_prefix place := (earlier.notices_prefix place).trans (later.notices_prefix place)
  errorCount_le := Nat.le_trans earlier.errorCount_le later.errorCount_le
  result_le := Nat.le_trans earlier.result_le later.result_le
  products_kept kind present := later.products_kept kind (earlier.products_kept kind present)

/-! ## The ways to change a project -/

theorem extends_record (project : Project) (events : List Event) :
    project.Extends (project.record events) :=
  { Extends.refl project with }

theorem extends_raise (project : Project) (result : Verdict) : project.Extends (project.raise result) :=
  { Extends.refl project with result_le := Verdict.rank_le_worse_left _ _ }

theorem extends_addErrors (project : Project) (count : Nat) :
    project.Extends (project.addErrors count) := by
  unfold addErrors
  split
  · exact .refl project
  · refine Extends.trans ?_ (extends_raise _ _)
    exact { Extends.refl project with errorCount_le := Nat.le_add_right _ _ }

theorem extends_addFindings (project : Project) (findings : List Finding) :
    project.Extends (project.addFindings findings) := by
  refine Extends.trans ?_ (extends_addErrors _ _)
  exact { Extends.refl project with
    notices_prefix := fun place => Finding.noticesAt_prefix_append project.findings findings place }

theorem extends_addProduct (project : Project) (product : Product) :
    project.Extends (project.addProduct product) :=
  { Extends.refl project with
    products_kept := fun _ present => Products.has_insert_of_has present product }

/-! ## Workers -/

theorem extends_validateProgram (project : Project) (configuration : Option Configuration) :
    project.Extends (project.validateProgram configuration) :=
  (project.extends_addFindings _).trans (extends_addProduct _ _)

theorem extends_validateConfiguration (project : Project) (platform : Platform) :
    project.Extends (project.validateConfiguration platform) :=
  (project.extends_addFindings _).trans (extends_record _ _)

theorem extends_checkTypes (project : Project) : project.Extends project.checkTypes :=
  ((project.extends_record _).trans (extends_addFindings _ _)).trans (extends_addProduct _ _)

theorem extends_generate (project : Project) (used : UsedHardware) :
    project.Extends (project.generate used) := by
  unfold generate
  split
  · split
    · exact { Extends.refl project with }
    · exact (project.extends_record _).trans (extends_raise _ _)
  · exact project.extends_record _

/-- One worker only adds to the project. -/
theorem extends_of_execute {platform : Platform} {before after : Project} {worker : Worker}
    (executed : before.execute platform worker = .ok after) : before.Extends after := by
  cases worker with
  | validator =>
    obtain rfl := Except.ok.inj executed
    exact before.extends_validateProgram _
  | configurationValidator =>
    obtain rfl := Except.ok.inj executed
    exact (before.extends_validateConfiguration platform).trans (extends_validateProgram _ _)
  | typeCheck =>
    obtain rfl := Except.ok.inj executed
    exact before.extends_checkTypes
  | codeGenerator =>
    cases hardware : before.products.usedHardware? with
    | none => simp [execute, hardware] at executed
    | some used =>
      simp only [execute, hardware, Except.ok.injEq] at executed
      subst executed
      exact before.extends_generate used

/-- Workers only add to a project, whether the run comes to its end or is stopped. -/
theorem run_only_appends (platform : Platform) (workflow : String) (project : Project)
    (workers : List Worker) : project.Extends (project.run platform workflow workers).1 := by
  induction workers generalizing project with
  | nil => exact project.extends_record _
  | cons worker rest ih =>
    have started := project.extends_record [.workerStarted workflow worker]
    cases executed : (project.record [.workerStarted workflow worker]).execute platform worker with
    | ok done =>
      rw [run]
      simp only [executed]
      have finished := done.extends_record [.workerFinished workflow worker done.errorCount]
      exact ((started.trans (extends_of_execute executed)).trans finished).trans (ih _)
    | error failure =>
      rw [run]
      simp only [executed]
      exact (started.trans (extends_record _ _)).trans (extends_raise _ _)

end Project
end BlockSketch
