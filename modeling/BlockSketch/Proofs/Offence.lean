import BlockSketch.Proofs.Generation
import BlockSketch.Proofs.Mistake
import BlockSketch.Proofs.Visit

/-!
The errors that the nodes of a program earn, by where they stand. `Program.Stands` puts a node
after the declarations that come before it and inside the nodes around it. From this alone
`Misplaced` says which error its name or its place earns, and `Miswired` which one its component
earns. A visit of a built program attaches to every node the error that it earns, and no other
(`offending_nodes_flagged`).
-/
namespace BlockSketch

/-! ## Where nodes stand -/

/-- The node is in the program, after these declarations and inside these nodes. An initial
    value stands after the declarations before its own, the body after all of them. -/
inductive Program.Stands (program : Program) : List Declaration → List Node → Node → Prop
  | task : Stands program [] [] (.task program.task)
  | declaration {before after : List Declaration} {declaration : Declaration}
    (split : program.task.declarations = before ++ declaration :: after) :
    Stands program before [.task program.task] (.declaration declaration)
  | initial {before after : List Declaration} {declaration : Declaration} {ancestors : List Node} {node : Node}
    (split : program.task.declarations = before ++ declaration :: after)
    (inside : (Node.expr declaration.value).Reaches ancestors node) :
    Stands program before (.task program.task :: .declaration declaration :: ancestors) node
  | body {ancestors : List Node} {node : Node} (inside : program.root.Reaches ancestors node) :
    Stands program program.task.declarations ancestors node

/-- The occurrence of a node says where it stands. -/
structure Occurrence.Fits (occurrence : Occurrence) (earlier : List Declaration) (ancestors : List Node) :
    Prop where
  scope : occurrence.scope = earlier.map Declaration.name
  loop : occurrence.node.isStatement = true → occurrence.inLoop = ancestors.any Node.isLoop

namespace Program
variable {program : Program} {earlier : List Declaration} {ancestors : List Node} {node : Node}

theorem stands_of_mem {occurrence : Occurrence} (member : occurrence ∈ program.occurrences) :
    ∃ earlier ancestors, program.Stands earlier ancestors occurrence.node ∧
      occurrence.Fits earlier ancestors := by
  rcases mem_occurrences_iff.mp member with
    rfl | ⟨before, declaration, after, split, rfl | inside⟩ | inside
  · exact ⟨[], [], .task, rfl, nofun⟩
  · exact ⟨before, _, .declaration split, rfl, nofun⟩
  · obtain ⟨part, _, rfl⟩ := List.mem_map.mp inside
    obtain ⟨ancestors, reached, _⟩ := Node.reaches_of_mem rfl inside
    exact ⟨before, _, .initial split reached, rfl, nofun⟩
  · obtain ⟨ancestors, reached, flagged⟩ := Node.reaches_of_mem rfl inside
    obtain ⟨scope, _⟩ := Sequence.share_occurrences _ _ _ inside
    exact ⟨_, ancestors, .body reached, scope, by simpa using flagged⟩

theorem Stands.occurs (stands : program.Stands earlier ancestors node) :
    ∃ occurrence ∈ program.occurrences, occurrence.node = node ∧ occurrence.Fits earlier ancestors := by
  cases stands with
  | task => exact ⟨_, mem_occurrences_iff.mpr (.inl rfl), rfl, rfl, nofun⟩
  | declaration split =>
    exact ⟨_, mem_occurrences_iff.mpr (.inr (.inl ⟨_, _, _, split, .inl rfl⟩)), rfl, rfl, nofun⟩
  | @initial _ _ declaration _ _ split inside =>
    obtain ⟨part, rfl⟩ := inside.expression rfl
    obtain ⟨flag, member, _⟩ := inside.occurs rfl (earlier.map Declaration.name) false
    exact ⟨_, mem_occurrences_iff.mpr (.inr (.inl ⟨_, _, _, split, .inr member⟩)), rfl, rfl, nofun⟩
  | body inside =>
    obtain ⟨flag, member, flagged⟩ := inside.occurs rfl program.names false
    exact ⟨_, mem_occurrences_iff.mpr (.inr (.inr member)), rfl, rfl, by simpa using flagged⟩

end Program

/-! ## Components that nodes need -/

/-- The node needs a component of this name and type. -/
inductive Node.Needs : Node → ComponentUse → Prop
  | key {label : Label} {port : Identifier} :
    Needs (.expr (.sensor label .key port)) ⟨port, .key, .sensor⟩
  | ultrasonic {label : Label} {port : Identifier} :
    Needs (.expr (.sensor label .ultrasonic port)) ⟨port, .ultrasonic, .sensor⟩
  | light {label : Label} {port : Identifier} :
    Needs (.expr (.sensor label .light port)) ⟨port, .light, .sensor⟩
  | temperature {label : Label} {port : Identifier} :
    Needs (.expr (.sensor label .temperature port)) ⟨port, .temperature, .sensor⟩
  | tone {label : Label} {port : Identifier} {frequency duration : Expr} :
    Needs (.stmt (.tone label port frequency duration)) ⟨port, .buzzer, .actor⟩
  | motorOn {label : Label} {port : Identifier} {power : Expr} :
    Needs (.stmt (.motorOn label port power)) ⟨port, .motor, .actor⟩
  | motorStop {label : Label} {port : Identifier} :
    Needs (.stmt (.motorStop label port)) ⟨port, .motor, .actor⟩
  | showText {label : Label} {port : Identifier} {text : Expr} :
    Needs (.stmt (.showText label port text)) ⟨port, .lcd, .actor⟩

theorem Node.needs_iff {node : Node} {use : ComponentUse} :
    node.Needs use ↔ node.componentUse? = some use := by
  constructor
  · intro needs
    cases needs <;> rfl
  · intro uses
    cases node with
    | expr part =>
      cases part with
      | sensor label device port =>
        cases uses
        cases device
        · exact .key
        · exact .ultrasonic
        · exact .light
        · exact .temperature
      | _ => cases uses
    | stmt part =>
      cases part with
      | tone =>
        cases uses
        exact .tone
      | motorOn =>
        cases uses
        exact .motorOn
      | motorStop =>
        cases uses
        exact .motorStop
      | showText =>
        cases uses
        exact .showText
      | _ => cases uses
    | _ => cases uses

namespace Configuration
variable {configuration : Configuration} {name : Identifier}

theorem component?_eq_some_iff {component : Component} :
    configuration.component? name.text = some component ↔
      component ∈ configuration.components ∧ component.name = name := by
  constructor
  · intro found
    obtain ⟨member, named⟩ := mem_of_component? found
    exact ⟨member, Identifier.text_inj named⟩
  · rintro ⟨member, rfl⟩
    exact component?_of_mem member

theorem component?_eq_none_iff :
    configuration.component? name.text = none ↔
      ∀ component ∈ configuration.components, component.name ≠ name := by
  constructor
  · rintro absent component member rfl
    rw [component?_of_mem member] at absent
    cases absent
  · intro absent
    cases found : configuration.component? name.text with
    | none => rfl
    | some component =>
      obtain ⟨member, named⟩ := component?_eq_some_iff.mp found
      exact absurd named (absent component member)

end Configuration

/-! ## Errors that nodes earn -/

/-- The error that the component of a node earns: it is not configured, or it is configured with
    another type. -/
inductive Miswired : Option Configuration → Node → Notice → Prop
  | missing {configuration : Configuration} {node : Node} {use : ComponentUse} (needs : node.Needs use)
    (absent : ∀ component ∈ configuration.components, component.name ≠ use.name) :
    Miswired (some configuration) node (.error use.role.missing [("name", use.name.text)])
  | wrong {configuration : Configuration} {node : Node} {use : ComponentUse} {component : Component}
    (needs : node.Needs use) (present : component ∈ configuration.components)
    (named : component.name = use.name) (other : component.type ≠ use.type) :
    Miswired (some configuration) node
      (.error use.role.wrong
        [("name", use.name.text), ("expected", use.type.tag), ("found", component.type.tag)])

/-- The error that a name or a place earns: a variable is used that is not declared before, a
    name is declared again, or there is no repetition around what leaves or continues one. -/
inductive Misplaced (earlier : List Declaration) (ancestors : List Node) : Node → Notice → Prop
  | read {label : Label} {name : Identifier} {type : ValueType}
    (unknown : ∀ declaration ∈ earlier, declaration.name ≠ name) :
    Misplaced earlier ancestors (.expr (.var label name type))
      (.error .usedBeforeDeclaration [("name", name.text)])
  | assigned {label : Label} {name : Identifier} {value : Expr}
    (unknown : ∀ declaration ∈ earlier, declaration.name ≠ name) :
    Misplaced earlier ancestors (.stmt (.assign label name value))
      (.error .usedBeforeDeclaration [("name", name.text)])
  | declaredAgain {declaration twin : Declaration} (before : twin ∈ earlier)
    (same : twin.name = declaration.name) :
    Misplaced earlier ancestors (.declaration declaration)
      (.error .declaredTwice [("name", declaration.name.text)])
  | outsideLoop {label : Label} {way : Flow} (free : ∀ ancestor ∈ ancestors, ancestor.kind ≠ .repeatStmt) :
    Misplaced earlier ancestors (.stmt (.flow label way))
      (.error .flowOutsideLoop [("flow", Vocabulary.word way)])

/-- The error that a node earns, after these declarations and inside these nodes. -/
def Offends (configuration : Option Configuration) (earlier : List Declaration) (ancestors : List Node)
    (node : Node) (notice : Notice) : Prop :=
  Miswired configuration node notice ∨ Misplaced earlier ancestors node notice

namespace Validation
variable {configuration : Option Configuration} {node : Node} {notice : Notice}

theorem mem_hardwareNotices_iff :
    notice ∈ hardwareNotices configuration node ↔ Miswired configuration node notice := by
  constructor
  · intro noticed
    unfold hardwareNotices at noticed
    split at noticed
    · next wiring use uses =>
      have needs := Node.needs_iff.mpr uses
      cases found : wiring.component? use.name.text with
      | none =>
        have wired : use.wired wiring = .missing := by simp [ComponentUse.wired, found]
        obtain rfl : notice = _ := by simpa [componentNotices, wired] using noticed
        exact .missing needs (Configuration.component?_eq_none_iff.mp found)
      | some component =>
        obtain ⟨present, named⟩ := Configuration.component?_eq_some_iff.mp found
        by_cases right : component.type = use.type
        · have wired : use.wired wiring = .right := by simp [ComponentUse.wired, found, right]
          simp [componentNotices, wired] at noticed
        · have wired : use.wired wiring = .wrong component.type := by simp [ComponentUse.wired, found, right]
          obtain rfl : notice = _ := by simpa [componentNotices, wired] using noticed
          exact .wrong needs present named right
    · cases noticed
  · intro miswired
    cases miswired with
    | missing needs absent =>
      have found := Configuration.component?_eq_none_iff.mpr absent
      simp [hardwareNotices, Node.needs_iff.mp needs, componentNotices, ComponentUse.wired, found]
    | wrong needs present named other =>
      have found := Configuration.component?_eq_some_iff.mpr ⟨present, named⟩
      simp [hardwareNotices, Node.needs_iff.mp needs, componentNotices, ComponentUse.wired, found, other]

theorem mem_nameNotices_iff {earlier : List Declaration} {name : Identifier} :
    notice ∈ nameNotices (earlier.map Declaration.name) name ↔
      (∀ declaration ∈ earlier, declaration.name ≠ name) ∧
        notice = .error .usedBeforeDeclaration [("name", name.text)] := by
  by_cases known : name ∈ earlier.map Declaration.name
  · obtain ⟨declaration, member, named⟩ := List.mem_map.mp known
    simp only [nameNotices, known, if_true, List.not_mem_nil, false_iff, not_and]
    exact fun unknown => absurd named (unknown declaration member)
  · have unknown : ∀ declaration ∈ earlier, declaration.name ≠ name := by
      rintro declaration member rfl
      exact known (List.mem_map_of_mem member)
    rw [nameNotices, if_neg known, List.mem_singleton]
    exact (and_iff_right unknown).symm

theorem isError_of_misplaced {earlier : List Declaration} {ancestors : List Node}
    (misplaced : Misplaced earlier ancestors node notice) : notice.isError = true := by
  cases misplaced <;> rfl

/-- A constant power out of range earns a warning only. -/
theorem isError_of_powerNotices {power : Expr} (noticed : notice ∈ powerNotices power) :
    notice.isError = false := by
  obtain ⟨_, rfl⟩ := eq_warning_of_powerNotices noticed
  rfl

end Validation

open Validation

section
variable {configuration : Option Configuration} {occurrence : Occurrence} {earlier : List Declaration}
  {ancestors : List Node} {notice : Notice}

theorem Occurrence.Fits.misplaced_iff (fits : occurrence.Fits earlier ancestors) :
    notice ∈ programNotices occurrence ∧ notice.isError = true ↔
      Misplaced earlier ancestors occurrence.node notice := by
  obtain ⟨node, scope, inLoop⟩ := occurrence
  obtain ⟨rfl, loop⟩ := fits
  constructor
  · rintro ⟨noticed, isError⟩
    cases node with
    | expr part =>
      cases part with
      | var label name type =>
        obtain ⟨unknown, rfl⟩ := mem_nameNotices_iff.mp noticed
        exact .read unknown
      | _ => cases noticed
    | stmt part =>
      cases part with
      | assign label name value =>
        obtain ⟨unknown, rfl⟩ := mem_nameNotices_iff.mp noticed
        exact .assigned unknown
      | motorOn label port power =>
        rw [isError_of_powerNotices noticed] at isError
        cases isError
      | flow label way =>
        obtain rfl : inLoop = _ := loop rfl
        by_cases around : ancestors.any Node.isLoop = true
        · simp [programNotices, around] at noticed
        · obtain rfl : notice = _ := by simpa [programNotices, around] using noticed
          refine .outsideLoop fun ancestor member isRepeat => around ?_
          exact List.any_eq_true.mpr ⟨ancestor, member, decide_eq_true isRepeat⟩
      | _ => cases noticed
    | declaration part =>
      by_cases known : part.name ∈ earlier.map Declaration.name
      · obtain rfl : notice = _ := by simpa [programNotices, known] using noticed
        obtain ⟨twin, member, same⟩ := List.mem_map.mp known
        exact .declaredAgain member same
      · simp [programNotices, known] at noticed
    | task part => cases noticed
  · intro misplaced
    refine ⟨?_, isError_of_misplaced misplaced⟩
    cases misplaced with
    | read unknown => exact mem_nameNotices_iff.mpr ⟨unknown, rfl⟩
    | assigned unknown => exact mem_nameNotices_iff.mpr ⟨unknown, rfl⟩
    | declaredAgain before same =>
      have known := List.mem_map.mpr ⟨_, before, same⟩
      simp [programNotices, known]
    | outsideLoop free =>
      obtain rfl : inLoop = _ := loop rfl
      have none : ancestors.any Node.isLoop = false := by
        rw [List.any_eq_false]
        intro ancestor member
        simpa [Node.isLoop] using free ancestor member
      simp [programNotices, none]

/-- The errors that are attached to a node are those that it earns. -/
theorem Occurrence.Fits.offends_iff (fits : occurrence.Fits earlier ancestors) :
    notice ∈ (notices configuration occurrence).filter Notice.isError ↔
      Offends configuration earlier ancestors occurrence.node notice := by
  rw [List.mem_filter, notices, List.mem_append, or_and_right, fits.misplaced_iff]
  refine or_congr_left ⟨fun noticed => mem_hardwareNotices_iff.mp noticed.1, fun miswired => ?_⟩
  refine ⟨mem_hardwareNotices_iff.mpr miswired, ?_⟩
  cases miswired <;> rfl

theorem Validation.length_hardwareNotices_le (configuration : Option Configuration) (node : Node) :
    (hardwareNotices configuration node).length ≤ 1 := by
  unfold hardwareNotices
  split
  · unfold componentNotices
    split <;> simp
  · simp

theorem Validation.length_programNotices_le (occurrence : Occurrence) :
    (programNotices occurrence).length ≤ 1 := by
  unfold programNotices nameNotices powerNotices
  repeat' split
  all_goals simp

/-- Nothing but its component can be wrong with a node that names one. -/
theorem Validation.programErrors_of_use {use : ComponentUse} (uses : occurrence.node.componentUse? = some use) :
    (programNotices occurrence).filter Notice.isError = [] := by
  obtain ⟨node, scope, inLoop⟩ := occurrence
  cases Node.needs_iff.mpr uses with
  | motorOn =>
    refine List.filter_eq_nil_iff.mpr fun notice noticed => ?_
    rw [isError_of_powerNotices noticed]
    exact Bool.false_ne_true
  | _ => rfl

/-- No node earns two errors. -/
theorem Occurrence.length_errors_le (configuration : Option Configuration) (occurrence : Occurrence) :
    ((notices configuration occurrence).filter Notice.isError).length ≤ 1 := by
  rw [notices, List.filter_append]
  cases uses : occurrence.node.componentUse? with
  | none =>
    rw [Visit.hardwareNotices_eq_nil uses]
    exact Nat.le_trans (List.length_filter_le ..) (length_programNotices_le occurrence)
  | some use =>
    rw [programErrors_of_use uses, List.append_nil]
    exact Nat.le_trans (List.length_filter_le ..) (length_hardwareNotices_le configuration occurrence.node)

end

/-! ## All nodes -/

/-- The errors that are attached to a node. -/
def Node.errorsIn (node : Node) (findings : List Finding) : List Notice :=
  (Finding.noticesAt findings (.block node.label.position)).filter Notice.isError

/-- The visit has flagged what is wrong with the program, and nothing else. -/
structure Program.FlaggedBy (program : Program) (configuration : Option Configuration) (visit : Visit) :
    Prop where
  /-- The errors that are attached to a node are those that it earns where it stands. -/
  flagged : ∀ earlier ancestors node, program.Stands earlier ancestors node → ∀ notice,
    notice ∈ node.errorsIn visit.findings ↔ Offends configuration earlier ancestors node notice
  /-- There is one at most. -/
  once : ∀ earlier ancestors node, program.Stands earlier ancestors node →
    (node.errorsIn visit.findings).length ≤ 1
  /-- Nothing is attached to anything but the nodes of the program. -/
  attached : ∀ finding ∈ visit.findings, ∃ earlier ancestors node,
    program.Stands earlier ancestors node ∧ finding.place = .block node.label.position
  /-- The errors that are attached are counted. -/
  counted : visit.errorCount = Finding.errorCount visit.findings
  /-- The visit stands outside of all repetitions again. -/
  left : visit.depth = 0

section
variable {program : Program} (distinct : (Occurrence.positions program.occurrences).Nodup)
  (configuration : Option Configuration)
include distinct

/-- A visit attaches to each place the notices that `Program.validate` finds there. -/
theorem Program.noticesAt_visit (place : Place) :
    Finding.noticesAt (program.visit configuration {}).findings place =
      Finding.noticesAt (program.validate configuration) place := by
  have passes := program.visit_passes configuration
  have positions : ((program.occurrences.map Occurrence.node).map fun node => node.label.position).Nodup := by
    rw [List.map_map]
    exact distinct
  simpa [Finding.noticesAt] using passes.attached positions place

/-- The errors of a node are those among its own notices. -/
theorem Program.errorsIn_visit {occurrence : Occurrence} (member : occurrence ∈ program.occurrences) :
    occurrence.node.errorsIn (program.visit configuration {}).findings =
      (notices configuration occurrence).filter Notice.isError := by
  have alone := Occurrence.filter_position_eq distinct member
  rw [Node.errorsIn, program.noticesAt_visit distinct, validate, Occurrence.noticesAt_findings, alone]
  simp

end

theorem Program.flaggedBy_visit {program : Program} (distinct : (Occurrence.positions program.occurrences).Nodup)
    (configuration : Option Configuration) : program.FlaggedBy configuration (program.visit configuration {}) where
  flagged earlier ancestors node stands notice := by
    obtain ⟨occurrence, member, rfl, fits⟩ := stands.occurs
    rw [errorsIn_visit distinct configuration member]
    exact fits.offends_iff
  once earlier ancestors node stands := by
    obtain ⟨occurrence, member, rfl, _⟩ := stands.occurs
    rw [errorsIn_visit distinct configuration member]
    exact occurrence.length_errors_le configuration
  attached finding found := by
    have listed := (program.visit_passes configuration).listed.mem_iff.mp found
    obtain ⟨occurrence, member, found⟩ := List.mem_flatMap.mp listed
    obtain ⟨notice, _, rfl⟩ := List.mem_map.mp found
    obtain ⟨earlier, ancestors, stands, _⟩ := stands_of_mem member
    exact ⟨earlier, ancestors, occurrence.node, stands, rfl⟩
  counted := by
    have passes := program.visit_passes configuration
    have same : Finding.errorCount (program.visit configuration {}).findings =
        Finding.errorCount (program.validate configuration) := passes.listed.countP_eq _
    rw [same, passes.errorCount]
    exact Nat.zero_add _
  left := (program.visit_passes configuration).depth

/-- A visit of a built program flags exactly the offending nodes, each once. It finds what
    `Program.validate` finds, node by node, and goes back to the depth at which it started. -/
theorem offending_nodes_flagged {draft : Draft.Program} {program : Program}
    (built : draft.build = .ok program) (configuration : Option Configuration) :
    program.FlaggedBy configuration (program.visit configuration {}) ∧
    (∀ place, Finding.noticesAt (program.visit configuration {}).findings place =
      Finding.noticesAt (program.validate configuration) place) ∧
    (program.visit configuration {}).errorCount = Finding.errorCount (program.validate configuration) ∧
    ∀ start, (program.visit configuration start).depth = start.depth := by
  have distinct := Draft.Program.positions_nodup built
  refine ⟨program.flaggedBy_visit distinct configuration, program.noticesAt_visit distinct configuration, ?_, ?_⟩
  · rw [(program.visit_passes configuration).errorCount]
    exact Nat.zero_add _
  · intro start
    have covers : Visit.Covers configuration program.names _ start _ := program.visit_covers start
    exact Visit.Passes.depth covers

/-- Reads a variable before it is declared, declares one again, breaks outside of a repetition
    and inside one, and stops a motor that is not there. -/
def Draft.Program.reckless : Draft.Program where
  declarations :=
    [⟨{}, "n", some "NUMBER", .var {} "m" (some "NUMBER")⟩, ⟨{}, "m", some "NUMBER", .number {} "1"⟩,
      ⟨{}, "n", some "NUMBER", .var {} "m" (some "NUMBER")⟩]
  body :=
    [.loop {} (some "FOREVER") none [.flow {} (some "BREAK")], .flow {} (some "BREAK"), .motorStop {} "wheel"]

theorem reckless_nodes_flagged :
    ∃ program, Draft.Program.reckless.build = .ok program ∧
      (program.visit (some .sonar) {}).errorCount = 4 ∧
      program.FlaggedBy (some .sonar) (program.visit (some .sonar) {}) ∧
      (∀ place, Finding.noticesAt (program.visit (some .sonar) {}).findings place =
        Finding.noticesAt (program.validate (some .sonar)) place) ∧
      (program.visit (some .sonar) {}).errorCount = Finding.errorCount (program.validate (some .sonar)) ∧
      ∀ start, (program.visit (some .sonar) start).depth = start.depth := by
  have count : (Draft.Program.reckless.build.toOption.map fun program =>
      (program.visit (some .sonar) {}).errorCount) = some 4 := by
    decide +kernel
  obtain ⟨program, built, count⟩ := Option.map_eq_some_iff.mp count
  replace built := Outcome.eq_ok_of_toOption built
  exact ⟨program, built, count, offending_nodes_flagged built (some .sonar)⟩

end BlockSketch
