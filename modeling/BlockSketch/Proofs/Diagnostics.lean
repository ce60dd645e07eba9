import BlockSketch.Proofs.Position
import BlockSketch.Proofs.Run
import Mathlib.Data.List.Nodup

/-!
A report lists what the workers have found, each finding once. Every finding is at a node
of the program or at a component of the configuration, and the report visits each of
these once, because no two nodes of a built program share a position and no two
components share a name. So the errors that are counted are the errors that are listed.
-/
namespace BlockSketch

/-! ## Where type errors are -/

theorem Expr.position_mem (expr : Expr) : expr.label.position ∈ expr.positions := by
  cases expr <;> simp [positions, parts, label]

namespace Typing

theorem ownFault?_label {env : Env} {expr : Expr} {fault : Fault} (own : ownFault? env expr = some fault) :
    fault.label = expr.label := by
  unfold ownFault? at own
  split at own
  · split at own
    · cases own
    · split at own
      · cases own
      · cases own
        rfl
  · split at own
    · split at own
      · cases own
        rfl
      · cases own
    · cases own
  · split at own
    · split at own
      · cases own
      · cases own
        rfl
    · cases own
  · cases own

theorem slotFault?_label {env : Env} {label : Label} {expr : Expr} {expected : ValueType} {slot : Slot}
    {fault : Fault} (wrong : slotFault? env label expr expected slot = some fault) :
    fault.label = label := by
  unfold slotFault? at wrong
  split at wrong
  · split at wrong
    · cases wrong
    · cases wrong
      rfl
  · cases wrong

/-- All these errors are at these positions. -/
def Located (positions : List Position) (faults : List Fault) : Prop :=
  ∀ fault ∈ faults, fault.label.position ∈ positions

section
variable {positions others : List Position} {found more : List Fault} {env : Env}

theorem Located.nil : Located positions [] := by
  simp [Located]

theorem Located.append (first : Located positions found) (second : Located others more) :
    Located (positions ++ others) (found ++ more) := by
  intro fault member
  rcases List.mem_append.mp member with member | member
  · exact List.mem_append_left _ (first fault member)
  · exact List.mem_append_right _ (second fault member)

theorem Located.mono (located : Located positions found) (inside : positions ⊆ others) :
    Located others found :=
  fun fault member => inside (located fault member)

/-- The errors of an expression are at it or inside it. -/
theorem faults_located (env : Env) (expr : Expr) : Located expr.positions (faults env expr) := by
  have own (expr : Expr) : Located expr.positions (ownFault? env expr).toList := by
    intro fault member
    rw [ownFault?_label (Option.mem_toList.mp member)]
    exact expr.position_mem
  induction expr with
  | binary label op left right leftLocated rightLocated =>
    have operands := (leftLocated.append rightLocated).mono (List.subset_cons_self label.position _)
    intro fault member
    rcases List.mem_append.mp member with member | member
    · rw [Expr.positions_binary]
      exact operands fault member
    · exact own _ fault member
  | unary label op operand located =>
    intro fault member
    rcases List.mem_append.mp member with member | member
    · rw [Expr.positions_unary]
      exact List.mem_cons_of_mem _ (located fault member)
    · exact own _ fault member
  | _ => exact own _

theorem slotFaults_located (expr : Expr) (expected : ValueType) (slot : Slot) :
    Located expr.positions (slotFaults env expr expected slot) := by
  intro fault member
  rcases List.mem_append.mp member with member | member
  · exact faults_located env expr fault member
  · rw [slotFault?_label (Option.mem_toList.mp member)]
    exact expr.position_mem

theorem assignFaults_located (name : Identifier) (value : Expr) :
    Located value.positions (assignFaults env name value) := by
  unfold assignFaults
  split
  · exact slotFaults_located value _ _
  · exact faults_located env value

theorem headFaults_located (scope : List Identifier) (inLoop : Bool) (head : LoopHead) :
    Located (Occurrence.positions (head.occurrences scope inLoop)) (headFaults env head) := by
  cases head with
  | forever => exact .nil
  | _ =>
    simp only [LoopHead.occurrences, LoopHead.expression?, Option.elim_some, Expr.positions_occurrences]
    exact slotFaults_located _ _ _

end

section
variable (env : Env)

mutual

theorem stmtFaults_located (scope : List Identifier) (inLoop : Bool) : ∀ stmt : Stmt,
    Located (Occurrence.positions (stmt.occurrences scope inLoop)) (stmtFaults env stmt)
  | .light .. => .nil
  | .lightStatus .. => .nil
  | .tone _ _ frequency duration => by
    rw [Stmt.occurrences, stmtFaults, Occurrence.positions_cons, Occurrence.positions_append,
      Expr.positions_occurrences, Expr.positions_occurrences]
    exact ((slotFaults_located frequency _ _).append (slotFaults_located duration _ _)).mono
      (List.subset_cons_self _ _)
  | .motorOn _ _ power => by
    rw [Stmt.occurrences, stmtFaults, Occurrence.positions_cons, Expr.positions_occurrences]
    exact (slotFaults_located power _ _).mono (List.subset_cons_self _ _)
  | .motorStop .. => .nil
  | .showText _ _ text => by
    rw [Stmt.occurrences, stmtFaults, Occurrence.positions_cons, Expr.positions_occurrences]
    exact (faults_located env text).mono (List.subset_cons_self _ _)
  | .serialWrite _ value => by
    rw [Stmt.occurrences, stmtFaults, Occurrence.positions_cons, Expr.positions_occurrences]
    exact (faults_located env value).mono (List.subset_cons_self _ _)
  | .block body => by
    rw [Stmt.occurrences, stmtFaults]
    exact sequenceFaults_located scope inLoop body
  | .assign _ name value => by
    rw [Stmt.occurrences, stmtFaults, Occurrence.positions_cons, Expr.positions_occurrences]
    exact (assignFaults_located name value).mono (List.subset_cons_self _ _)
  | .branch _ branches => by
    rw [Stmt.occurrences, stmtFaults, Occurrence.positions_cons]
    exact (branchFaults_located scope inLoop branches).mono (List.subset_cons_self _ _)
  | .loop _ head body => by
    rw [Stmt.occurrences, stmtFaults, Occurrence.positions_cons, Occurrence.positions_append]
    exact ((headFaults_located scope inLoop head).append (sequenceFaults_located scope true body)).mono
      (List.subset_cons_self _ _)
  | .flow .. => .nil
  | .wait _ time => by
    rw [Stmt.occurrences, stmtFaults, Occurrence.positions_cons, Expr.positions_occurrences]
    exact (slotFaults_located time _ _).mono (List.subset_cons_self _ _)

/-- The errors of a list of statements are at nodes inside it. -/
theorem sequenceFaults_located (scope : List Identifier) (inLoop : Bool) : ∀ body : Sequence,
    Located (Occurrence.positions (body.occurrences scope inLoop)) (sequenceFaults env body)
  | .mk _ statements => by
    rw [Sequence.occurrences, sequenceFaults, Occurrence.positions_cons]
    exact (listFaults_located scope inLoop statements).mono (List.subset_cons_self _ _)

theorem listFaults_located (scope : List Identifier) (inLoop : Bool) : ∀ statements : List Stmt,
    Located (Occurrence.positions (Stmt.listOccurrences scope inLoop statements)) (listFaults env statements)
  | [] => by
    rw [listFaults]
    exact .nil
  | stmt :: rest => by
    rw [Stmt.listOccurrences, listFaults, Occurrence.positions_append]
    exact (stmtFaults_located scope inLoop stmt).append (listFaults_located scope inLoop rest)

theorem branchFaults_located (scope : List Identifier) (inLoop : Bool) : ∀ branches : Branches,
    Located (Occurrence.positions (branches.occurrences scope inLoop)) (branchFaults env branches)
  | .only condition body => by
    rw [Branches.occurrences, branchFaults, Occurrence.positions_append, Expr.positions_occurrences]
    exact (slotFaults_located condition _ _).append (sequenceFaults_located scope inLoop body)
  | .orElse condition body otherwise => by
    rw [Branches.occurrences, branchFaults, Occurrence.positions_append, Occurrence.positions_append,
      Expr.positions_occurrences]
    exact ((slotFaults_located condition _ _).append (sequenceFaults_located scope inLoop body)).append
      (sequenceFaults_located scope inLoop otherwise)
  | .orIf condition body rest => by
    rw [Branches.occurrences, branchFaults, Occurrence.positions_append, Occurrence.positions_append,
      Expr.positions_occurrences]
    exact ((slotFaults_located condition _ _).append (sequenceFaults_located scope inLoop body)).append
      (branchFaults_located scope inLoop rest)

end
end

theorem declarationFaults_located (env : Env) (declaration : Declaration) :
    Located (declaration.label.position :: declaration.value.positions)
      (declarationFaults env declaration) := by
  intro fault member
  rcases List.mem_append.mp member with member | member
  · exact List.mem_cons_of_mem _ (faults_located env declaration.value fault member)
  · rw [slotFault?_label (Option.mem_toList.mp member)]
    exact List.mem_cons_self

theorem taskFaults_located (env : Env) (scope : List Identifier) (declarations : List Declaration) :
    Located (Occurrence.positions (Declaration.occurrences scope declarations))
      (taskFaults env declarations) := by
  rw [Declaration.positions_occurrences]
  induction declarations generalizing env with
  | nil => exact .nil
  | cons declaration rest ih =>
    rw [List.flatMap_cons]
    exact (declarationFaults_located env declaration).append (ih _)

/-- The type errors of a program are at its nodes. -/
theorem checkTypes_located (program : Program) :
    Located (Occurrence.positions program.occurrences) program.checkTypes.faults := by
  unfold Program.occurrences
  rw [Occurrence.positions_cons, Occurrence.positions_append]
  have all := (taskFaults_located [] [] program.task.declarations).append
    (sequenceFaults_located (program.task.declarations.map entry) program.names false program.body)
  exact all.mono (List.subset_cons_self _ _)

end Typing

/-! ## The places of a report -/

/-- The places that a report visits: the components, then the nodes of the program. -/
def Program.places (program : Program) (configuration : Configuration) : List Place :=
  configuration.components.map (fun component => .component component.name) ++
    (Occurrence.positions program.occurrences).map .block

section
variable {platform : Platform} {program : Program} {configuration : Configuration} {finding : Finding}

theorem Program.places_nodup (distinct : (Occurrence.positions program.occurrences).Nodup) :
    (program.places configuration).Nodup := by
  have components : (configuration.components.map fun component => Place.component component.name).Nodup := by
    have names := configuration.names_nodup.map fun _ _ same => Place.component.inj same
    rwa [List.map_map] at names
  have blocks : ((Occurrence.positions program.occurrences).map Place.block).Nodup :=
    distinct.map fun _ _ same => Place.block.inj same
  refine List.nodup_append.mpr ⟨components, blocks, ?_⟩
  intro first isComponent second isBlock same
  obtain ⟨component, _, rfl⟩ := List.mem_map.mp isComponent
  obtain ⟨position, _, rfl⟩ := List.mem_map.mp isBlock
  cases same

theorem Program.component_mem_places {component : Component} (member : component ∈ configuration.components) :
    Place.component component.name ∈ program.places configuration :=
  List.mem_append_left _ (List.mem_map_of_mem member)

theorem Program.block_mem_places {position : Position}
    (member : position ∈ Occurrence.positions program.occurrences) :
    Place.block position ∈ program.places configuration :=
  List.mem_append_right _ (List.mem_map_of_mem member)

theorem Program.place_of_validate {against : Option Configuration}
    (found : finding ∈ program.validate against) : finding.place ∈ program.places configuration := by
  obtain ⟨occurrence, member, found⟩ := List.mem_flatMap.mp found
  obtain ⟨notice, _, rfl⟩ := List.mem_map.mp found
  exact block_mem_places (List.mem_map_of_mem member)

theorem Program.place_of_checkTypes {fault : Typing.Fault} (found : fault ∈ program.checkTypes.faults) :
    fault.finding.place ∈ program.places configuration :=
  block_mem_places (Typing.checkTypes_located program fault found)

theorem Configuration.place_of_validate (found : finding ∈ configuration.validate platform) :
    finding.place ∈ program.places configuration := by
  rcases List.mem_append.mp found with found | found
  · obtain ⟨claimed, member, found⟩ := List.mem_flatMap.mp found
    obtain ⟨notice, _, rfl⟩ := List.mem_map.mp found
    exact Program.component_mem_places (Platform.component_of_claims member)
  · obtain ⟨component, member, found⟩ := List.mem_flatMap.mp found
    obtain ⟨role, _, rfl⟩ := List.mem_map.mp found
    exact Program.component_mem_places member

/-- Whatever a worker finds is at a place that the report visits. -/
theorem Worker.place_of_findings {worker : Worker}
    (found : finding ∈ worker.findings platform program configuration) :
    finding.place ∈ program.places configuration := by
  cases worker with
  | validator => exact Program.place_of_validate found
  | configurationValidator =>
    rcases List.mem_append.mp found with found | found
    · exact Configuration.place_of_validate found
    · exact Program.place_of_validate found
  | typeCheck =>
    obtain ⟨fault, member, rfl⟩ := List.mem_map.mp found
    exact Program.place_of_checkTypes member
  | codeGenerator => cases found

end

/-! ## What a report lists -/

section
variable {Key Item : Type} [DecidableEq Key] {keys : List Key} (key : Item → Key)

/-- An item is found under its own key only. -/
theorem flatMap_own_key (distinct : keys.Nodup) {item : Item} (visited : key item ∈ keys) :
    (keys.flatMap fun other => [item].filter fun found => key found = other) = [item] := by
  induction keys with
  | nil => cases visited
  | cons first rest ih =>
    obtain ⟨fresh, distinct⟩ := List.nodup_cons.mp distinct
    rw [List.flatMap_cons]
    rcases List.mem_cons.mp visited with rfl | later
    · have elsewhere : (rest.flatMap fun other => [item].filter fun found => key found = other) = [] := by
        refine List.flatMap_eq_nil_iff.mpr fun other member => List.filter_cons_of_neg ?_
        simp only [decide_eq_true_eq]
        rintro rfl
        exact fresh member
      rw [elsewhere, List.append_nil, List.filter_cons_of_pos (by simp), List.filter_nil]
    · have differs : key item ≠ first := fun same => fresh (same ▸ later)
      rw [List.filter_cons_of_neg (by simpa using differs), List.filter_nil, List.nil_append, ih distinct later]

/-- Items that are taken key by key, each key once, are all taken once. -/
theorem flatMap_filter_perm (distinct : keys.Nodup) {items : List Item}
    (visited : ∀ item ∈ items, key item ∈ keys) :
    (keys.flatMap fun other => items.filter fun item => key item = other).Perm items := by
  induction items with
  | nil => simp
  | cons item rest ih =>
    obtain ⟨here, later⟩ := List.forall_mem_cons.mp visited
    have split := List.flatMap_append_perm keys (fun other => [item].filter fun found => key found = other)
      (fun other => rest.filter fun found => key found = other)
    simp only [← List.filter_append, List.singleton_append, flatMap_own_key key distinct here] at split
    exact split.symm.trans ((ih later).cons item)

end

/-- Different places that hold all findings give each notice back once. -/
theorem Finding.notices_perm {places : List Place} (distinct : places.Nodup) {findings : List Finding}
    (visited : ∀ finding ∈ findings, finding.place ∈ places) :
    (places.flatMap (Finding.noticesAt findings)).Perm (findings.map Finding.notice) := by
  have taken := (flatMap_filter_perm Finding.place distinct visited).map Finding.notice
  rwa [List.map_flatMap] at taken

namespace Project
variable {platform : Platform} {program : Program} {configuration : Configuration} {ran : List Worker}
  {project : Project}

theorem notices_diagnostics (project : Project) :
    project.diagnostics.map Diagnostic.notice =
      (project.program.places project.configuration).flatMap (Finding.noticesAt project.findings) := by
  simp [diagnostics, Configuration.diagnostics, Program.diagnostics, Node.diagnostics, Program.places,
    Occurrence.positions, List.map_flatMap, List.flatMap_map, Function.comp_def]

/-- The report lists what the workers have found. -/
theorem Traced.notices_perm (traced : Traced platform program configuration ran project)
    (distinct : (Occurrence.positions program.occurrences).Nodup) :
    (project.diagnostics.map Diagnostic.notice).Perm
      ((ran.flatMap (Worker.findings platform program configuration)).map Finding.notice) := by
  rw [notices_diagnostics, traced.program_eq, traced.configuration_eq, traced.findings_eq]
  refine Finding.notices_perm (Program.places_nodup distinct) fun finding found => ?_
  obtain ⟨worker, _, found⟩ := List.mem_flatMap.mp found
  exact Worker.place_of_findings found

theorem Traced.errorCount_diagnostics (traced : Traced platform program configuration ran project)
    (distinct : (Occurrence.positions program.occurrences).Nodup) :
    project.errorCount = project.diagnostics.countP fun diagnostic => diagnostic.notice.isError := by
  calc
    project.errorCount
      = Notice.errorCount ((ran.flatMap (Worker.findings platform program configuration)).map
          Finding.notice) := by
        rw [traced.errorCount_eq, traced.findings_eq, Notice.errorCount, List.countP_map]
        rfl
    _ = Notice.errorCount (project.diagnostics.map Diagnostic.notice) :=
        ((traced.notices_perm distinct).countP_eq _).symm
    _ = project.diagnostics.countP fun diagnostic => diagnostic.notice.isError := by
        rw [Notice.errorCount, List.countP_map]
        rfl

end Project

/-- The report on a built program counts the errors that it lists. Every run gives a
    report, and the report lists, each once, all that the workers before its end have
    found, warnings included: all workers, or those before the generator that stops it. -/
theorem errorCount_eq_listed_errors {draft : Draft.Program} {program : Program}
    {configuration : Configuration} {platform : Platform} {workflow : String} {workers : List Worker}
    (built : draft.build = .ok program) (defined : platform.workflow workflow = .ok workers) :
    ∃ compilation ran, compile program configuration platform workflow = .ok compilation ∧
      compilation.report.errorCount =
        compilation.report.diagnostics.countP (fun diagnostic => diagnostic.notice.severity = .error) ∧
      (compilation.report.diagnostics.map Diagnostic.notice).Perm
        ((ran.flatMap (Worker.findings platform program configuration)).map Finding.notice) ∧
      (compilation.report.workflowError = none ∧ ran = workers ∨
        compilation.report.workflowError.isSome ∧ ran ++ [.codeGenerator] <+: workers) := by
  have distinct := Draft.Program.positions_nodup built
  have compiled : compile program configuration platform workflow = .ok _ := compile_eq defined
  rcases compile_cases defined compiled with
    ⟨last, log, reached, ended⟩ | ⟨before, rest, last, log, split, reached, _, ended⟩
  · have traced := Project.traced reached
    refine ⟨_, workers, compiled, ?_⟩
    rw [ended]
    exact ⟨traced.errorCount_diagnostics distinct, traced.notices_perm distinct, .inl ⟨rfl, rfl⟩⟩
  · have traced := Project.traced reached
    refine ⟨_, before, compiled, ?_⟩
    rw [ended]
    refine ⟨traced.errorCount_diagnostics distinct, traced.notices_perm distinct, .inr ⟨rfl, rest, ?_⟩⟩
    rw [split, List.append_assoc]
    rfl

/-- Runs a motor that is not there, and too fast, and waits for a text. -/
def Draft.Program.hasty : Draft.Program where
  declarations := []
  body := [.motorOn {} "left" (.number {} "150"), .wait {} (.text {} "soon")]

/-- Validates three times, and generates in between. -/
def Platform.cautious : Platform :=
  { arduinoUno with
    workflows := [("again", [.validator, .configurationValidator, .typeCheck, .codeGenerator, .validator])] }

/-- The three warnings about the power are listed, and not counted. -/
theorem hasty_errors_counted :
    ∃ program, Draft.Program.hasty.build = .ok program ∧
      ∃ compilation ran, compile program .empty .cautious "again" = .ok compilation ∧
        (compilation.report.errorCount = 2 ∧ compilation.report.diagnostics.length = 5) ∧
        compilation.report.errorCount =
          compilation.report.diagnostics.countP (fun diagnostic => diagnostic.notice.severity = .error) ∧
        (compilation.report.diagnostics.map Diagnostic.notice).Perm
          ((ran.flatMap (Worker.findings .cautious program .empty)).map Finding.notice) ∧
        (compilation.report.workflowError = none ∧
            ran = [.validator, .configurationValidator, .typeCheck, .codeGenerator, .validator] ∨
          compilation.report.workflowError.isSome ∧
            ran ++ [.codeGenerator] <+:
              [.validator, .configurationValidator, .typeCheck, .codeGenerator, .validator]) := by
  have counts : (Draft.Program.hasty.build.toOption.bind fun program =>
      (compile program .empty .cautious "again").toOption.map fun compilation =>
        (compilation.report.errorCount, compilation.report.diagnostics.length)) = some (2, 5) := by
    decide +kernel
  obtain ⟨program, built, counts⟩ := Option.bind_eq_some_iff.mp counts
  replace built := Outcome.eq_ok_of_toOption built
  obtain ⟨compilation, ran, compiled, listed⟩ := errorCount_eq_listed_errors built
    (show Platform.cautious.workflow "again" = .ok _ from rfl)
  rw [compiled] at counts
  have both := Option.some.inj counts
  exact ⟨program, built, compilation, ran, compiled, Prod.mk.inj both, listed⟩

end BlockSketch
