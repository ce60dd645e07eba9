import BlockSketch.Proofs.Declared
import BlockSketch.Proofs.Offence
import BlockSketch.Proofs.Outline

/-!
The hardware that a visit records, by the nodes of the program alone: a component is recorded
if some node in an initial value or in the body needs it and the configuration has it, a
timer if some node reads it, and the outputs if some node writes to them.

`Program.Reordered` relates programs that differ in their labels and in the order of their
statements, in any of their lists. They use the same hardware.
-/
namespace BlockSketch

/-! ## Nodes in values and in the body -/

/-- The node is inside an initial value or inside the body. -/
def Program.Holds (program : Program) (node : Node) : Prop :=
  (∃ declaration ∈ program.task.declarations, (Node.expr declaration.value).Contains node) ∨
    program.root.Contains node

/-- Nodes of the program occur in it, and besides the task and its declarations nothing
    else occurs. -/
theorem Program.exists_occurrence_iff {program : Program} (P : Node → Prop) (noTask : ∀ task, ¬P (.task task))
    (noDeclaration : ∀ declaration, ¬P (.declaration declaration)) :
    (∃ occurrence ∈ program.occurrences, P occurrence.node) ↔ ∃ node, program.Holds node ∧ P node := by
  constructor
  · rintro ⟨occurrence, member, holds⟩
    obtain ⟨earlier, ancestors, stands, _⟩ := stands_of_mem member
    refine ⟨occurrence.node, ?_, holds⟩
    generalize occurrence.node = node at stands holds
    cases stands with
    | task => exact absurd holds (noTask _)
    | declaration split => exact absurd holds (noDeclaration _)
    | @initial _ after declaration ancestors _ split inside =>
      exact .inl ⟨declaration, by rw [split]; exact List.mem_append_right _ List.mem_cons_self, ancestors, inside⟩
    | body inside => exact .inr ⟨_, inside⟩
  · rintro ⟨node, ⟨declaration, member, ancestors, inside⟩ | ⟨ancestors, inside⟩, holds⟩
    · obtain ⟨before, after, split⟩ := List.append_of_mem member
      obtain ⟨occurrence, occurs, rfl, _⟩ := (Program.Stands.initial split inside).occurs
      exact ⟨occurrence, occurs, holds⟩
    · obtain ⟨occurrence, occurs, rfl, _⟩ := (Program.Stands.body inside).occurs
      exact ⟨occurrence, occurs, holds⟩

/-! ## What is recorded -/

/-- The configuration, if there is one, has the component with the type that is needed. -/
def ComponentUse.Configured (use : ComponentUse) (configuration : Option Configuration) : Prop :=
  ∀ wiring, configuration = some wiring →
    ∃ component ∈ wiring.components, component.name = use.name ∧ component.type = use.type

theorem ComponentUse.isWired_iff {use : ComponentUse} {configuration : Option Configuration} :
    use.isWired configuration = true ↔ use.Configured configuration := by
  cases configuration with
  | none => simp [isWired, Configured]
  | some wiring =>
    simp only [isWired, beq_iff_eq, wired_eq_right_iff, Configuration.component?_eq_some_iff, Configured,
      Option.some.injEq, forall_eq']
    constructor
    · rintro ⟨component, ⟨member, named⟩, typed⟩
      exact ⟨component, member, named, typed⟩
    · rintro ⟨component, member, named, typed⟩
      exact ⟨component, ⟨member, named⟩, typed⟩

theorem Node.timer?_eq_some_iff {node : Node} {number : UInt8} :
    node.timer? = some number ↔ ∃ label clock, node = .expr (.timer label clock) ∧ clock.number = number := by
  constructor
  · intro reads
    cases node with
    | expr part =>
      cases part with
      | timer label clock => exact ⟨label, clock, rfl, Option.some.inj reads⟩
      | _ => cases reads
    | _ => cases reads
  · rintro ⟨label, clock, rfl, rfl⟩
    rfl

theorem Node.usesSerial_iff {node : Node} :
    node.usesSerial = true ↔ ∃ label value, node = .stmt (.serialWrite label value) := by
  constructor
  · intro writes
    cases node with
    | stmt part =>
      cases part with
      | serialWrite label value => exact ⟨label, value, rfl⟩
      | _ => cases writes
    | _ => cases writes
  · rintro ⟨label, value, rfl⟩
    rfl

theorem Node.usesBrickLight_iff {node : Node} :
    node.usesBrickLight = true ↔
      (∃ label color blink, node = .stmt (.light label color blink)) ∨
        ∃ label status, node = .stmt (.lightStatus label status) := by
  constructor
  · intro lights
    cases node with
    | stmt part =>
      cases part with
      | light label color blink => exact .inl ⟨label, color, blink, rfl⟩
      | lightStatus label status => exact .inr ⟨label, status, rfl⟩
      | _ => cases lights
    | _ => cases lights
  · rintro (⟨label, color, blink, rfl⟩ | ⟨label, status, rfl⟩) <;> rfl

namespace Program
variable {program : Program} {configuration : Option Configuration}

theorem mem_components_iff {name : String} :
    name ∈ (program.usedHardware configuration).components ↔
      ∃ node use, program.Holds node ∧ node.Needs use ∧ use.name.text = name ∧ use.Configured configuration := by
  have held (use : ComponentUse) :
      (∃ occurrence ∈ program.occurrences, occurrence.node.Needs use) ↔
        ∃ node, program.Holds node ∧ node.Needs use :=
    exists_occurrence_iff (·.Needs use) (fun _ needs => by cases needs) (fun _ needs => by cases needs)
  simp only [usedHardware, UsedHardware.of, List.mem_eraseDups, List.mem_map, List.mem_filter,
    List.mem_filterMap, ← Node.needs_iff, ComponentUse.isWired_iff]
  constructor
  · rintro ⟨use, ⟨⟨_, ⟨occurrence, member, rfl⟩, needs⟩, configured⟩, named⟩
    obtain ⟨node, inside, needs⟩ := (held use).mp ⟨occurrence, member, needs⟩
    exact ⟨node, use, inside, needs, named, configured⟩
  · rintro ⟨node, use, inside, needs, named, configured⟩
    obtain ⟨occurrence, member, needs⟩ := (held use).mpr ⟨node, inside, needs⟩
    exact ⟨use, ⟨⟨_, ⟨occurrence, member, rfl⟩, needs⟩, configured⟩, named⟩

theorem mem_timers_iff {number : UInt8} :
    number ∈ (program.usedHardware configuration).timers ↔
      ∃ label clock, program.Holds (.expr (.timer label clock)) ∧ clock.number = number := by
  have held : (∃ occurrence ∈ program.occurrences, occurrence.node.timer? = some number) ↔
      ∃ node, program.Holds node ∧ node.timer? = some number :=
    exists_occurrence_iff (·.timer? = some number) (fun _ reads => by cases reads) (fun _ reads => by cases reads)
  simp only [usedHardware, UsedHardware.of, UsedHardware.mem_ascending_iff, List.filterMap_map,
    List.mem_filterMap, Function.comp_apply]
  rw [held]
  simp only [Node.timer?_eq_some_iff]
  constructor
  · rintro ⟨_, inside, label, clock, rfl, read⟩
    exact ⟨label, clock, inside, read⟩
  · rintro ⟨label, clock, inside, read⟩
    exact ⟨_, inside, label, clock, rfl, read⟩

theorem serial_iff :
    (program.usedHardware configuration).serial = true ↔
      ∃ label value, program.Holds (.stmt (.serialWrite label value)) := by
  have held : (∃ occurrence ∈ program.occurrences, occurrence.node.usesSerial = true) ↔
      ∃ node, program.Holds node ∧ node.usesSerial = true :=
    exists_occurrence_iff (·.usesSerial = true) (fun _ writes => by cases writes) (fun _ writes => by cases writes)
  simp only [usedHardware, UsedHardware.of, List.any_map, List.any_eq_true, Function.comp_apply]
  rw [held]
  simp only [Node.usesSerial_iff]
  constructor
  · rintro ⟨_, inside, label, value, rfl⟩
    exact ⟨label, value, inside⟩
  · rintro ⟨label, value, inside⟩
    exact ⟨_, inside, label, value, rfl⟩

theorem brickLight_iff :
    (program.usedHardware configuration).brickLight = true ↔
      (∃ label color blink, program.Holds (.stmt (.light label color blink))) ∨
        ∃ label status, program.Holds (.stmt (.lightStatus label status)) := by
  have held : (∃ occurrence ∈ program.occurrences, occurrence.node.usesBrickLight = true) ↔
      ∃ node, program.Holds node ∧ node.usesBrickLight = true :=
    exists_occurrence_iff (·.usesBrickLight = true) (fun _ lights => by cases lights) (fun _ lights => by cases lights)
  simp only [usedHardware, UsedHardware.of, List.any_map, List.any_eq_true, Function.comp_apply]
  rw [held]
  simp only [Node.usesBrickLight_iff]
  constructor
  · rintro ⟨_, inside, ⟨label, color, blink, rfl⟩ | ⟨label, status, rfl⟩⟩
    · exact .inl ⟨label, color, blink, inside⟩
    · exact .inr ⟨label, status, inside⟩
  · rintro (⟨label, color, blink, inside⟩ | ⟨label, status, inside⟩)
    · exact ⟨_, inside, .inl ⟨label, color, blink, rfl⟩⟩
    · exact ⟨_, inside, .inr ⟨label, status, rfl⟩⟩

end Program

/-! ## Other orders -/

/-- The heads keep a repetition going in the same way. -/
def LoopHead.Alike (first second : LoopHead) : Prop :=
  first.mode = second.mode ∧ first.expression?.map Expr.outline = second.expression?.map Expr.outline

mutual

/-- The other statement is this one with other labels, and with the statements of its lists
    in another order. -/
def Stmt.Reordered : Stmt → Stmt → Prop
  | .light _ color blink => fun other => ∃ label, other = .light label color blink
  | .lightStatus _ status => fun other => ∃ label, other = .lightStatus label status
  | .tone _ port frequency duration => fun other =>
    ∃ label pitch length, other = .tone label port pitch length ∧
      frequency.outline = pitch.outline ∧ duration.outline = length.outline
  | .motorOn _ port power => fun other =>
    ∃ label force, other = .motorOn label port force ∧ power.outline = force.outline
  | .motorStop _ port => fun other => ∃ label, other = .motorStop label port
  | .showText _ port text => fun other =>
    ∃ label shown, other = .showText label port shown ∧ text.outline = shown.outline
  | .serialWrite _ value => fun other =>
    ∃ label written, other = .serialWrite label written ∧ value.outline = written.outline
  | .block body => fun other => ∃ list, other = .block list ∧ body.Reordered list
  | .assign _ name value => fun other =>
    ∃ label given, other = .assign label name given ∧ value.outline = given.outline
  | .branch _ branches => fun other => ∃ label arms, other = .branch label arms ∧ branches.Reordered arms
  | .loop _ head body => fun other =>
    ∃ label top list, other = .loop label top list ∧ head.Alike top ∧ body.Reordered list
  | .flow _ way => fun other => ∃ label, other = .flow label way
  | .wait _ time => fun other => ∃ label length, other = .wait label length ∧ time.outline = length.outline

/-- The statements of the other list are those of this one, each reordered, in any order. -/
def Sequence.Reordered : Sequence → Sequence → Prop
  | .mk _ statements => fun other =>
    ∃ label list others, other = .mk label others ∧ list.Perm others ∧ Stmt.ListReordered statements list

/-- Each statement is reordered, and none is moved. -/
def Stmt.ListReordered : List Stmt → List Stmt → Prop
  | [] => fun others => others = []
  | stmt :: rest => fun others =>
    ∃ other list, others = other :: list ∧ stmt.Reordered other ∧ Stmt.ListReordered rest list

/-- The arms are tried in the order they are written, and so stay where they are. -/
def Branches.Reordered : Branches → Branches → Prop
  | .only condition body => fun other =>
    ∃ test list, other = .only test list ∧ condition.outline = test.outline ∧ body.Reordered list
  | .orElse condition body otherwise => fun other =>
    ∃ test list last, other = .orElse test list last ∧ condition.outline = test.outline ∧
      body.Reordered list ∧ otherwise.Reordered last
  | .orIf condition body rest => fun other =>
    ∃ test list more, other = .orIf test list more ∧ condition.outline = test.outline ∧
      body.Reordered list ∧ rest.Reordered more

end

/-- The declarations differ in their labels only. -/
def Declaration.Alike (first second : Declaration) : Prop :=
  first.name = second.name ∧ first.type = second.type ∧ first.value.outline = second.value.outline

/-- The other program is this one with its declarations and its statements in another order. -/
def Program.Reordered (program other : Program) : Prop :=
  (∃ declarations : List Declaration, declarations.Perm other.task.declarations ∧
    List.Forall₂ Declaration.Alike program.task.declarations declarations) ∧
  program.body.Reordered other.body

/-! ## Demands -/

/-- All that a node itself asks of the hardware. -/
structure Demand where
  use? : Option ComponentUse
  timer? : Option UInt8
  serial : Bool
  brickLight : Bool

def Node.demand (node : Node) : Demand :=
  ⟨node.componentUse?, node.timer?, node.usesSerial, node.usesBrickLight⟩

def Occurrence.demands (occurrences : List Occurrence) : List Demand :=
  occurrences.map fun occurrence => occurrence.node.demand

theorem Occurrence.demands_append (first second : List Occurrence) :
    demands (first ++ second) = demands first ++ demands second :=
  List.map_append

theorem Occurrence.demands_cons (occurrence : Occurrence) (rest : List Occurrence) :
    demands (occurrence :: rest) = occurrence.node.demand :: demands rest := rfl

theorem Expr.demands_occurrences (scope : List Identifier) (inLoop : Bool) (expr : Expr) :
    Occurrence.demands (expr.occurrences scope inLoop) = expr.parts.map fun part => (Node.expr part).demand := by
  simp [Occurrence.demands, Expr.occurrences]

/-- Expressions that say the same ask the same. -/
theorem Expr.demands_eq {first second : Expr} (same : first.outline = second.outline) :
    (first.parts.map fun part => (Node.expr part).demand) = second.parts.map fun part => (Node.expr part).demand := by
  induction first generalizing second with
  | binary label op left right ihLeft ihRight =>
    cases second with
    | binary =>
      obtain ⟨_, left, right⟩ := Outline.binary.inj same
      simp only [parts, List.map_cons, List.map_append, ihLeft left, ihRight right]
      rfl
    | _ => cases same
  | unary label op operand ih =>
    cases second with
    | unary =>
      obtain ⟨_, operand⟩ := Outline.unary.inj same
      simp only [parts, List.map_cons, ih operand]
      rfl
    | _ => cases same
  | sensor label device port =>
    cases second with
    | sensor =>
      obtain ⟨rfl, text⟩ := Outline.sensor.inj same
      obtain rfl := Identifier.text_inj text
      rfl
    | _ => cases same
  | timer label clock =>
    cases second with
    | timer =>
      have number := UInt8.toNat.inj (Outline.timer.inj same)
      simp only [parts, List.map_cons, List.map_nil, Node.demand, Node.timer?, number]
      rfl
    | _ => cases same
  | number | boolean | text | var =>
    cases second with
    | number | boolean | text | var => rfl
    | _ => cases same

open Occurrence (demands demands_append demands_cons)

theorem Expr.demands_perm {first second : Expr} (same : first.outline = second.outline)
    (scope others : List Identifier) (inLoop elsewhere : Bool) :
    (demands (first.occurrences scope inLoop)).Perm (demands (second.occurrences others elsewhere)) := by
  rw [Expr.demands_occurrences, Expr.demands_occurrences, Expr.demands_eq same]

theorem LoopHead.demands_perm {first second : LoopHead} (alike : first.Alike second)
    (scope others : List Identifier) (inLoop elsewhere : Bool) :
    (demands (first.occurrences scope inLoop)).Perm (demands (second.occurrences others elsewhere)) := by
  obtain ⟨_, same⟩ := alike
  unfold LoopHead.occurrences
  generalize first.expression? = condition?, second.expression? = test? at same ⊢
  cases condition? with
  | none =>
    cases test? with
    | none => exact .nil
    | some => cases same
  | some condition =>
    cases test? with
    | none => cases same
    | some test => exact Expr.demands_perm (Option.some.inj same) ..

theorem Stmt.listDemands (scope : List Identifier) (inLoop : Bool) (statements : List Stmt) :
    demands (Stmt.listOccurrences scope inLoop statements) =
      statements.flatMap fun stmt => demands (stmt.occurrences scope inLoop) := by
  rw [Stmt.listOccurrences_eq, demands, List.map_flatMap]
  rfl

section
variable (scope others : List Identifier)

mutual

theorem Stmt.demands_perm (inLoop elsewhere : Bool) : ∀ (first second : Stmt), first.Reordered second →
    (demands (first.occurrences scope inLoop)).Perm (demands (second.occurrences others elsewhere))
  | .light _ _ _, _, reordered => by
    obtain ⟨_, rfl⟩ := reordered
    exact .rfl
  | .lightStatus _ _, _, reordered => by
    obtain ⟨_, rfl⟩ := reordered
    exact .rfl
  | .tone _ _ _ _, _, reordered => by
    obtain ⟨_, _, _, rfl, first, second⟩ := reordered
    simp only [Stmt.occurrences, demands_cons, demands_append]
    exact ((Expr.demands_perm first ..).append (Expr.demands_perm second ..)).cons _
  | .motorOn _ _ _, _, reordered => by
    obtain ⟨_, _, rfl, same⟩ := reordered
    exact (Expr.demands_perm same ..).cons _
  | .motorStop _ _, _, reordered => by
    obtain ⟨_, rfl⟩ := reordered
    exact .rfl
  | .showText _ _ _, _, reordered => by
    obtain ⟨_, _, rfl, same⟩ := reordered
    exact (Expr.demands_perm same ..).cons _
  | .serialWrite _ _, _, reordered => by
    obtain ⟨_, _, rfl, same⟩ := reordered
    exact (Expr.demands_perm same ..).cons _
  | .block body, _, reordered => by
    obtain ⟨list, rfl, reordered⟩ := reordered
    exact Sequence.demands_perm inLoop elsewhere body list reordered
  | .assign _ _ _, _, reordered => by
    obtain ⟨_, _, rfl, same⟩ := reordered
    exact (Expr.demands_perm same ..).cons _
  | .branch _ branches, _, reordered => by
    obtain ⟨_, arms, rfl, reordered⟩ := reordered
    exact (Branches.demands_perm inLoop elsewhere branches arms reordered).cons _
  | .loop _ _ body, _, reordered => by
    obtain ⟨_, _, list, rfl, alike, reordered⟩ := reordered
    simp only [Stmt.occurrences, demands_cons, demands_append]
    exact ((LoopHead.demands_perm alike ..).append (Sequence.demands_perm true true body list reordered)).cons _
  | .flow _ _, _, reordered => by
    obtain ⟨_, rfl⟩ := reordered
    exact .rfl
  | .wait _ _, _, reordered => by
    obtain ⟨_, _, rfl, same⟩ := reordered
    exact (Expr.demands_perm same ..).cons _

theorem Sequence.demands_perm (inLoop elsewhere : Bool) : ∀ (first second : Sequence), first.Reordered second →
    (demands (first.occurrences scope inLoop)).Perm (demands (second.occurrences others elsewhere))
  | .mk _ statements, _, reordered => by
    obtain ⟨_, list, moved, rfl, perm, reordered⟩ := reordered
    have inPlace := Stmt.demands_listPerm inLoop elsewhere statements list reordered
    have afterMoves : (demands (Stmt.listOccurrences others elsewhere list)).Perm
        (demands (Stmt.listOccurrences others elsewhere moved)) := by
      rw [Stmt.listDemands, Stmt.listDemands]
      exact perm.flatMap_right _
    exact (inPlace.trans afterMoves).cons _

theorem Stmt.demands_listPerm (inLoop elsewhere : Bool) : ∀ (first second : List Stmt),
    Stmt.ListReordered first second →
    (demands (Stmt.listOccurrences scope inLoop first)).Perm (demands (Stmt.listOccurrences others elsewhere second))
  | [], _, reordered => by
    obtain rfl := reordered
    exact .rfl
  | stmt :: rest, _, reordered => by
    obtain ⟨other, list, rfl, first, second⟩ := reordered
    simp only [Stmt.listOccurrences, demands_append]
    exact (Stmt.demands_perm inLoop elsewhere stmt other first).append
      (Stmt.demands_listPerm inLoop elsewhere rest list second)

theorem Branches.demands_perm (inLoop elsewhere : Bool) : ∀ (first second : Branches), first.Reordered second →
    (demands (first.occurrences scope inLoop)).Perm (demands (second.occurrences others elsewhere))
  | .only _ body, _, reordered => by
    obtain ⟨_, list, rfl, same, reordered⟩ := reordered
    simp only [Branches.occurrences, demands_append]
    exact (Expr.demands_perm same ..).append (Sequence.demands_perm inLoop elsewhere body list reordered)
  | .orElse _ body otherwise, _, reordered => by
    obtain ⟨_, list, last, rfl, same, reordered, lastReordered⟩ := reordered
    simp only [Branches.occurrences, demands_append]
    exact ((Expr.demands_perm same ..).append (Sequence.demands_perm inLoop elsewhere body list reordered)).append
      (Sequence.demands_perm inLoop elsewhere otherwise last lastReordered)
  | .orIf _ body rest, _, reordered => by
    obtain ⟨_, list, more, rfl, same, reordered, moreReordered⟩ := reordered
    simp only [Branches.occurrences, demands_append]
    exact ((Expr.demands_perm same ..).append (Sequence.demands_perm inLoop elsewhere body list reordered)).append
      (Branches.demands_perm inLoop elsewhere rest more moreReordered)

end
end

theorem Declaration.demands_occurrences (scope : List Identifier) (declarations : List Declaration) :
    demands (Declaration.occurrences scope declarations) = declarations.flatMap fun declaration =>
      (Node.declaration declaration).demand :: declaration.value.parts.map fun part => (Node.expr part).demand := by
  induction declarations generalizing scope with
  | nil => rfl
  | cons declaration rest ih =>
    simp only [Declaration.occurrences, demands_cons, demands_append, Expr.demands_occurrences, ih,
      List.flatMap_cons, List.cons_append]

theorem Declaration.demands_perm {first second list : List Declaration} (moved : list.Perm second)
    (alike : List.Forall₂ Declaration.Alike first list) (scope others : List Identifier) :
    (demands (Declaration.occurrences scope first)).Perm (demands (Declaration.occurrences others second)) := by
  rw [demands_occurrences, demands_occurrences]
  refine .trans (.of_eq ?_) (moved.flatMap_right _)
  clear moved
  induction alike with
  | nil => rfl
  | @cons declaration other rest list same _ ih =>
    have declared : (Node.declaration declaration).demand = (Node.declaration other).demand := rfl
    rw [List.flatMap_cons, List.flatMap_cons, ih, declared, Expr.demands_eq same.2.2]

namespace Program
variable {program other : Program}

theorem Reordered.demands_perm (reordered : program.Reordered other) :
    (demands program.occurrences).Perm (demands other.occurrences) := by
  obtain ⟨⟨list, moved, alike⟩, body⟩ := reordered
  simp only [Program.occurrences, demands_cons, demands_append]
  exact ((Declaration.demands_perm moved alike ..).append (Sequence.demands_perm _ _ false false _ _ body)).cons _

/-- What a program uses is read off what its nodes ask. -/
theorem usedHardware_eq_of_demands (program : Program) (configuration : Option Configuration) :
    program.usedHardware configuration =
      .of ((((demands program.occurrences).filterMap Demand.use?).filter fun use => use.isWired configuration).map
          fun use => use.name.text)
        ((demands program.occurrences).filterMap Demand.timer?)
        ((demands program.occurrences).any Demand.serial)
        ((demands program.occurrences).any Demand.brickLight) := by
  simp only [usedHardware, demands, List.filterMap_map, List.any_map]
  rfl

theorem Reordered.usedHardware (reordered : program.Reordered other) (configuration : Option Configuration) :
    (∀ name, name ∈ (program.usedHardware configuration).components ↔
        name ∈ (other.usedHardware configuration).components) ∧
      (program.usedHardware configuration).timers = (other.usedHardware configuration).timers ∧
      (program.usedHardware configuration).serial = (other.usedHardware configuration).serial ∧
      (program.usedHardware configuration).brickLight = (other.usedHardware configuration).brickLight := by
  have perm := reordered.demands_perm
  rw [usedHardware_eq_of_demands, usedHardware_eq_of_demands]
  simp only [UsedHardware.of, UsedHardware.ascending, List.mem_eraseDups]
  refine ⟨fun name => (((perm.filterMap _).filter _).map _).mem_iff, ?_, perm.any_eq, perm.any_eq⟩
  congr 1
  funext timer
  exact (perm.filterMap _).contains_eq

end Program

/-- A visit records the hardware that the program uses: the components that some node in an
    initial value or in the body needs and the configuration has, the timers that are read,
    and the outputs that are written to. The order of the statements does not matter. -/
theorem used_hardware_recorded (program : Program) (configuration : Option Configuration) :
    (program.visit configuration {}).hardware = program.usedHardware configuration ∧
      (∀ name, name ∈ (program.usedHardware configuration).components ↔
        ∃ node use, program.Holds node ∧ node.Needs use ∧ use.name.text = name ∧ use.Configured configuration) ∧
      (∀ number, number ∈ (program.usedHardware configuration).timers ↔
        ∃ label clock, program.Holds (.expr (.timer label clock)) ∧ clock.number = number) ∧
      ((program.usedHardware configuration).serial = true ↔
        ∃ label value, program.Holds (.stmt (.serialWrite label value))) ∧
      ((program.usedHardware configuration).brickLight = true ↔
        (∃ label color blink, program.Holds (.stmt (.light label color blink))) ∨
          ∃ label status, program.Holds (.stmt (.lightStatus label status))) ∧
      ∀ other, program.Reordered other →
        (∀ name, name ∈ (program.usedHardware configuration).components ↔
            name ∈ (other.usedHardware configuration).components) ∧
          (program.usedHardware configuration).timers = (other.usedHardware configuration).timers ∧
          (program.usedHardware configuration).serial = (other.usedHardware configuration).serial ∧
          (program.usedHardware configuration).brickLight = (other.usedHardware configuration).brickLight :=
  ⟨program.hardware_visit configuration, fun _ => Program.mem_components_iff, fun _ => Program.mem_timers_iff,
    Program.serial_iff, Program.brickLight_iff, fun _ reordered => reordered.usedHardware configuration⟩

/-- Sends the time, and rings as long as the door is open. -/
def Program.doorbell : Program where
  task := ⟨⟨[0], {}⟩, [⟨⟨[0, 0], {}⟩, ⟨"open", by decide⟩, .boolean, .sensor ⟨[0, 0, 0], {}⟩ .key ⟨"door", by decide⟩⟩]⟩
  body := .mk ⟨[1], {}⟩ [
    .serialWrite ⟨[0, 1], {}⟩ (.timer ⟨[0, 0, 1], {}⟩ ⟨3, by decide⟩),
    .loop ⟨[1, 1], {}⟩ (.during (.var ⟨[0, 1, 1], {}⟩ ⟨"open", by decide⟩ .boolean)) (.mk ⟨[1, 1, 1], {}⟩ [
      .lightStatus ⟨[0, 1, 1, 1], {}⟩ .off,
      .tone ⟨[1, 1, 1, 1], {}⟩ ⟨"bell", by decide⟩ (.sensor ⟨[0, 1, 1, 1, 1], {}⟩ .light ⟨"sun", by decide⟩)
        (.timer ⟨[1, 1, 1, 1, 1], {}⟩ ⟨3, by decide⟩)])]

/-- The same with the statements of both lists turned around. -/
def Program.turnedDoorbell : Program where
  task := Program.doorbell.task
  body := .mk ⟨[1], {}⟩ [
    .loop ⟨[0, 1], {}⟩ (.during (.var ⟨[0, 0, 1], {}⟩ ⟨"open", by decide⟩ .boolean)) (.mk ⟨[1, 0, 1], {}⟩ [
      .tone ⟨[0, 1, 0, 1], {}⟩ ⟨"bell", by decide⟩ (.sensor ⟨[0, 0, 1, 0, 1], {}⟩ .light ⟨"sun", by decide⟩)
        (.timer ⟨[1, 0, 1, 0, 1], {}⟩ ⟨3, by decide⟩),
      .lightStatus ⟨[1, 1, 0, 1], {}⟩ .off]),
    .serialWrite ⟨[1, 1], {}⟩ (.timer ⟨[0, 1, 1], {}⟩ ⟨3, by decide⟩)]

theorem doorbell_hardware_recorded :
    Program.doorbell.Reordered .turnedDoorbell ∧
      (∀ name, name ∈ (Program.doorbell.usedHardware none).components ↔
        name ∈ (Program.turnedDoorbell.usedHardware none).components) ∧
      (Program.doorbell.usedHardware none).timers = (Program.turnedDoorbell.usedHardware none).timers ∧
      (Program.doorbell.usedHardware none).serial = (Program.turnedDoorbell.usedHardware none).serial ∧
      (Program.doorbell.usedHardware none).brickLight = (Program.turnedDoorbell.usedHardware none).brickLight := by
  have inner (quiet ring : Stmt) : [quiet, ring].Perm [ring, quiet] := .swap ..
  have reordered : Program.doorbell.Reordered .turnedDoorbell := by
    refine ⟨⟨_, .rfl, .cons ⟨rfl, rfl, rfl⟩ .nil⟩, _, _, _, rfl, inner _ _, _, _, rfl, ⟨_, _, rfl, rfl⟩, _, _, rfl, ?_, rfl⟩
    exact ⟨_, _, _, rfl, ⟨rfl, rfl⟩, _, _, _, rfl, inner _ _, _, _, rfl, ⟨_, rfl⟩, _, _, rfl,
      ⟨_, _, _, rfl, rfl, rfl⟩, rfl⟩
  exact ⟨reordered, (used_hardware_recorded .doorbell none).2.2.2.2.2 _ reordered⟩

end BlockSketch
