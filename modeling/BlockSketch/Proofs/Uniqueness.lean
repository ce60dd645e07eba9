import BlockSketch.Proofs.Families
import BlockSketch.Proofs.Scoping
import BlockSketch.Proofs.Validators
import Mathlib.Data.List.Forall2
import Mathlib.Data.List.Nodup

/-!
Within its family, no name of a sketch is written twice. A pin constant is a component and a
role joined by an underscore; component names may hold underscores, but the roles do not, so the
last underscore tells the two apart. Variables differ because the validator has passed them,
timers because they ascend, and counters because each counted loop takes the next number.
-/
namespace BlockSketch

/-! ## Families -/

namespace Sketch

/-- What a name stands for. -/
inductive Family
  | pin | display | timer | var | counter
deriving DecidableEq

def Name.family : Name → Family
  | .pin .. => .pin
  | .display _ => .display
  | .timer _ => .timer
  | .var _ => .var
  | .counter _ => .counter

/-- All names that the sketch introduces: those of its definitions and globals, then the
    counters of its loops. -/
def introduced (sketch : Sketch) : List Name :=
  sketch.fileNames ++ Instruction.blockCounters sketch.loop

/-- The names of a family that the sketch introduces, line by line. -/
def members (sketch : Sketch) (family : Family) : List Name :=
  sketch.introduced.filter fun name => name.family = family

/-! ## Texts of one family -/

theorem toString_inj {first second : Nat} (same : toString first = toString second) : first = second := by
  have digits : Nat.toDigits 10 first = Nat.toDigits 10 second := by
    rw [← Nat.toList_repr, ← Nat.toList_repr]
    exact congrArg String.toList same
  rw [← Nat.ofDigitChars_ten_toDigits (n := first), digits, Nat.ofDigitChars_ten_toDigits]

/-- A role that has to be wired is written as it is, but for the plus. -/
theorem roleText_cases {type : ComponentType} {role : String} (required : role ∈ type.requiredRoles) :
    roleText role = role ∧ role ≠ "PLUS" ∨ roleText role = "PLUS" ∧ role = "+" := by
  revert role
  cases type with
  | other tag => simp [ComponentType.requiredRoles]
  | _ => decide +kernel

theorem roleText_inj {type other : ComponentType} {role next : String} (required : role ∈ type.requiredRoles)
    (alsoRequired : next ∈ other.requiredRoles) (same : roleText role = roleText next) : role = next := by
  rcases roleText_cases required with ⟨plain, notPlus⟩ | ⟨plus, rfl⟩
  · rcases roleText_cases alsoRequired with ⟨nextPlain, _⟩ | ⟨nextPlus, rfl⟩
    · rw [← plain, same, nextPlain]
    · exact absurd (plain.symm.trans (same.trans nextPlus)) notPlus
  · rcases roleText_cases alsoRequired with ⟨nextPlain, nextNotPlus⟩ | ⟨_, rfl⟩
    · exact absurd (nextPlain.symm.trans (same.symm.trans plus)) nextNotPlus
    · rfl

/-- A name is cut at its last underscore, since the role has none. -/
theorem Name.pin_text_inj {component other : Identifier} {role next : String}
    (plain : '_' ∉ (roleText role).toList) (nextPlain : '_' ∉ (roleText next).toList)
    (same : (Name.pin component role).text = (Name.pin other next).text) :
    component = other ∧ roleText role = roleText next := by
  have runs : RunsInto other.text component.text (roleText role) (roleText next) :=
    (runsInto_iff plain).mp same
  rcases runs with ⟨isComponent, isRole⟩ | ⟨middle, _, isRole⟩
  · exact ⟨Identifier.text_inj isComponent, isRole.symm⟩
  · exact absurd (by simp [isRole]) nextPlain

/-- The pin constants among the names are for roles that have to be wired. -/
def Required (names : List Name) : Prop :=
  ∀ component role, .pin component role ∈ names → ∃ type : ComponentType, role ∈ type.requiredRoles

/-- Names of one family that are written alike are the same. -/
theorem Name.eq_of_text {names : List Name} (required : Required names) {name other : Name}
    (member : name ∈ names) (otherMember : other ∈ names) (related : name.family = other.family)
    (same : name.text = other.text) : name = other := by
  cases name with
  | pin component role =>
    cases other with
    | pin next nextRole =>
      obtain ⟨type, needed⟩ := required component role member
      obtain ⟨nextType, nextNeeded⟩ := required next nextRole otherMember
      obtain ⟨rfl, sameRole⟩ := pin_text_inj (roleText_of_required type role needed).1
        (roleText_of_required nextType nextRole nextNeeded).1 same
      rw [roleText_inj needed nextNeeded sameRole]
    | _ => cases related
  | display component =>
    cases other with
    | display next =>
      have texts : component.text = next.text := String.append_right_inj _ |>.mp same
      rw [Identifier.text_inj texts]
    | _ => cases related
  | timer number =>
    cases other with
    | timer next =>
      have texts : toString number.toNat = toString next.toNat := String.append_right_inj _ |>.mp same
      rw [UInt8.toNat_inj.mp (toString_inj texts)]
    | _ => cases related
  | var declared =>
    cases other with
    | var next =>
      have texts : declared.text = next.text := String.append_right_inj _ |>.mp same
      rw [Identifier.text_inj texts]
    | _ => cases related
  | counter index =>
    cases other with
    | counter next =>
      have texts : toString index = toString next := String.append_right_inj _ |>.mp same
      rw [toString_inj texts]
    | _ => cases related

/-! ## Names that are introduced once -/

theorem componentNames_nodup (component : Component) : (componentNames component).Nodup := by
  have roles : component.type.requiredRoles.Nodup := by
    cases component.type with
    | other tag => exact List.nodup_nil
    | _ => decide
  have constants : (component.type.requiredRoles.map (Name.pin component.name)).Nodup :=
    roles.map fun _ _ same => (Name.pin.inj same).2
  unfold componentNames
  split
  · refine List.nodup_append.mpr ⟨constants, List.nodup_singleton _, ?_⟩
    rintro name constant other object rfl
    obtain ⟨role, _, rfl⟩ := List.mem_map.mp constant
    cases List.mem_singleton.mp object
  · rwa [List.append_nil]

/-- The component that a name is for. -/
def Name.component? : Name → Option Identifier
  | .pin component _ => some component
  | .display component => some component
  | _ => none

theorem component?_of_mem_componentNames {component : Component} {name : Name}
    (member : name ∈ componentNames component) : name.component? = some component.name := by
  rcases List.mem_append.mp member with constant | object
  · obtain ⟨role, _, rfl⟩ := List.mem_map.mp constant
    rfl
  · split at object
    · rw [List.mem_singleton.mp object]
      rfl
    · cases object

/-- Components with different names have different constants and objects. -/
theorem flatMap_componentNames_nodup {components : List Component}
    (distinct : (components.map Component.name).Nodup) : (components.flatMap componentNames).Nodup := by
  refine List.nodup_flatMap.mpr ⟨fun component _ => componentNames_nodup component, ?_⟩
  refine (List.pairwise_map.mp distinct).imp fun {first second} differ name inFirst inSecond => differ ?_
  exact Option.some.inj
    ((component?_of_mem_componentNames inFirst).symm.trans (component?_of_mem_componentNames inSecond))

/-- Timers ascend, and none is there twice. -/
theorem ascending_pairwise (timers : List UInt8) : (UsedHardware.ascending timers).Pairwise (· < ·) := by
  refine List.Pairwise.filter _ (List.pairwise_map.mpr ?_)
  refine List.pairwise_lt_range.imp_of_mem fun {first second} _ inRange less => ?_
  have small : second < 256 := List.mem_range.mp inRange
  rw [UInt8.lt_iff_toNat_lt, UInt8.toNat_ofNat_of_lt' (Nat.lt_trans less small), UInt8.toNat_ofNat_of_lt' small]
  exact less

end Sketch

/-! ## Counted loops -/

/-- What a counted loop counts to and what it repeats. -/
def Node.counted? : Node → Option (Expr × Sequence)
  | .stmt (.loop _ (.times count) body) => some (count, body)
  | _ => none

/-- The counted loops among nodes. -/
def Occurrence.counted (occurrences : List Occurrence) : List (Expr × Sequence) :=
  occurrences.filterMap fun occurrence => occurrence.node.counted?

@[simp] theorem Occurrence.counted_append (first rest : List Occurrence) :
    counted (first ++ rest) = counted first ++ counted rest :=
  List.filterMap_append

@[simp] theorem Occurrence.counted_cons (occurrence : Occurrence) (rest : List Occurrence) :
    counted (occurrence :: rest) = occurrence.node.counted?.toList ++ counted rest := by
  unfold counted
  cases isCounted : occurrence.node.counted? <;> simp [isCounted]

theorem Occurrence.length_counted (occurrences : List Occurrence) :
    (counted occurrences).length = countedLoops occurrences := by
  rw [counted, List.length_filterMap_eq_countP, countedLoops]
  refine List.countP_congr fun occurrence _ => ?_
  cases occurrence.node with
  | stmt stmt =>
    cases stmt with
    | loop label head body => cases head <;> simp [Node.counted?, Node.isCounted]
    | _ => simp [Node.counted?, Node.isCounted]
  | _ => simp [Node.counted?, Node.isCounted]

/-- There are no loops in expressions. -/
@[simp] theorem Expr.counted_occurrences (expr : Expr) (scope : List Identifier) (inLoop : Bool) :
    Occurrence.counted (expr.occurrences scope inLoop) = [] := by
  rw [← List.length_eq_zero_iff, Occurrence.length_counted, Expr.countedLoops_occurrences]

@[simp] theorem LoopHead.counted_occurrences (head : LoopHead) (scope : List Identifier) (inLoop : Bool) :
    Occurrence.counted (head.occurrences scope inLoop) = [] := by
  rw [← List.length_eq_zero_iff, Occurrence.length_counted, LoopHead.countedLoops_occurrences]

namespace Sketch

/-- A counted loop of the code: its counter, what it counts to, and what it repeats. -/
structure CountedLoop where
  counter : Name
  count : Term
  body : List Instruction

/-- The counted loop that this head and body make, if they make one. -/
def Head.countedLoops (body : List Instruction) : Head → List CountedLoop
  | .counted counter count => [⟨counter, count, body⟩]
  | _ => []

mutual

/-- The counted loops of an instruction in the order they are written, an outer loop before
    those inside it. -/
def Instruction.countedLoops : Instruction → List CountedLoop
  | .command _ => []
  | .choice choice => choice.countedLoops
  | .loop head body => head.countedLoops body ++ Instruction.blockCountedLoops body

def Instruction.blockCountedLoops : List Instruction → List CountedLoop
  | [] => []
  | instruction :: rest => instruction.countedLoops ++ Instruction.blockCountedLoops rest

def Choice.countedLoops : Choice → List CountedLoop
  | .only _ body => Instruction.blockCountedLoops body
  | .orElse _ body otherwise => Instruction.blockCountedLoops body ++ Instruction.blockCountedLoops otherwise
  | .orIf _ body rest => Instruction.blockCountedLoops body ++ rest.countedLoops

end

theorem Instruction.blockCountedLoops_append (first rest : List Instruction) :
    blockCountedLoops (first ++ rest) = blockCountedLoops first ++ blockCountedLoops rest := by
  induction first with
  | nil => rfl
  | cons instruction first ih => simp [blockCountedLoops, ih]

/-- The loop is the code of a counted loop of the program, and has the counter with this
    number; the loops inside it have those that follow. -/
structure Numbered (configuration : Configuration) (source : (Expr × Sequence) × Nat) (loop : CountedLoop) :
    Prop where
  counter : loop.counter = .counter source.2
  count : exprTerm configuration source.1.1 = .ok loop.count
  body : sequenceCode configuration (source.2 + 1) source.1.2 = .ok loop.body

/-- The loops are those of the nodes, one for each in order, numbered from the index on. -/
def NumberedFrom (configuration : Configuration) (index : Nat) (occurrences : List Occurrence)
    (loops : List CountedLoop) : Prop :=
  List.Forall₂ (Numbered configuration) ((Occurrence.counted occurrences).zipIdx index) loops

section
variable {configuration : Configuration} {index count : Nat} {occurrences others : List Occurrence}
  {loops more : List CountedLoop}

theorem NumberedFrom.append (size : Occurrence.countedLoops occurrences = count)
    (first : NumberedFrom configuration index occurrences loops)
    (second : NumberedFrom configuration (index + count) others more) :
    NumberedFrom configuration index (occurrences ++ others) (loops ++ more) := by
  unfold NumberedFrom
  rw [Occurrence.counted_append, List.zipIdx_append, Occurrence.length_counted, size]
  exact List.rel_append first second

/-- Nodes without counted loops have none in their code. -/
theorem NumberedFrom.none (without : Occurrence.counted occurrences = []) :
    NumberedFrom configuration index occurrences [] := by
  unfold NumberedFrom
  rw [without]
  exact .nil

/-- Nodes without counted loops may stand before others. -/
theorem NumberedFrom.after (without : Occurrence.counted occurrences = [])
    (numbered : NumberedFrom configuration index others loops) :
    NumberedFrom configuration index (occurrences ++ others) loops := by
  unfold NumberedFrom
  rw [Occurrence.counted_append, without]
  exact numbered

theorem NumberedFrom.cons {occurrence : Occurrence} (uncounted : occurrence.node.counted? = Option.none)
    (numbered : NumberedFrom configuration index others loops) :
    NumberedFrom configuration index (occurrence :: others) loops := by
  unfold NumberedFrom
  rw [Occurrence.counted_cons, uncounted]
  exact numbered

theorem NumberedFrom.loop {scope : List Identifier} {inLoop : Bool} {label : Label} {head : LoopHead}
    {body : Sequence} {made : Head} {code : List Instruction}
    (headMade : loopHead configuration index head = .ok made)
    (bodyMade : sequenceCode configuration (index + headLoops head) body = .ok code)
    (inside : NumberedFrom configuration (index + headLoops head) (body.occurrences scope true)
      (Instruction.blockCountedLoops code)) :
    NumberedFrom configuration index ((Stmt.loop label head body).occurrences scope inLoop)
      (Instruction.countedLoops (.loop made code)) := by
  unfold NumberedFrom at inside ⊢
  rw [Stmt.occurrences, Occurrence.counted_cons, Occurrence.counted_append, LoopHead.counted_occurrences,
    List.nil_append, Instruction.countedLoops]
  cases head with
  | forever =>
    cases headMade
    exact inside
  | times count =>
    obtain ⟨term, termMade, made⟩ := Outcome.bind_eq_ok_iff.mp headMade
    cases made
    exact .cons ⟨rfl, termMade, bodyMade⟩ inside
  | during condition =>
    obtain ⟨term, _, made⟩ := Outcome.bind_eq_ok_iff.mp headMade
    cases made
    exact inside
  | till condition =>
    obtain ⟨term, _, made⟩ := Outcome.bind_eq_ok_iff.mp headMade
    cases made
    exact inside

end

section
variable {configuration : Configuration} (scope : List Identifier)

mutual

theorem stmtCode_numbered (inLoop : Bool) :
    ∀ (stmt : Stmt) {index : Nat} {code : List Instruction}, stmtCode configuration index stmt = .ok code →
      NumberedFrom configuration index (stmt.occurrences scope inLoop) (Instruction.blockCountedLoops code)
  | .light .., _, _, made => by
    cases made
    exact .none rfl
  | .lightStatus _ .off, _, _, made => by
    cases made
    exact .none rfl
  | .lightStatus _ .reset, _, _, made => by
    cases made
    exact .none rfl
  | .tone .., _, _, made => by
    obtain ⟨pin, _, made⟩ := Outcome.bind_eq_ok_iff.mp made
    obtain ⟨frequency, _, made⟩ := Outcome.bind_eq_ok_iff.mp made
    obtain ⟨duration, _, made⟩ := Outcome.bind_eq_ok_iff.mp made
    cases made
    exact .none (by simp [Stmt.occurrences, Node.counted?])
  | .motorOn .., _, _, made => by
    obtain ⟨forward, _, made⟩ := Outcome.bind_eq_ok_iff.mp made
    obtain ⟨backward, _, made⟩ := Outcome.bind_eq_ok_iff.mp made
    obtain ⟨power, _, made⟩ := Outcome.bind_eq_ok_iff.mp made
    cases made
    exact .none (by simp [Stmt.occurrences, Node.counted?])
  | .motorStop .., _, _, made => by
    obtain ⟨forward, _, made⟩ := Outcome.bind_eq_ok_iff.mp made
    obtain ⟨backward, _, made⟩ := Outcome.bind_eq_ok_iff.mp made
    cases made
    exact .none rfl
  | .showText .., _, _, made => by
    obtain ⟨display, _, made⟩ := Outcome.bind_eq_ok_iff.mp made
    obtain ⟨text, _, made⟩ := Outcome.bind_eq_ok_iff.mp made
    cases made
    exact .none (by simp [Stmt.occurrences, Node.counted?])
  | .serialWrite .., _, _, made => by
    obtain ⟨value, _, made⟩ := Outcome.bind_eq_ok_iff.mp made
    cases made
    exact .none (by simp [Stmt.occurrences, Node.counted?])
  | .block body, _, _, made => sequenceCode_numbered inLoop body made
  | .assign .., _, _, made => by
    obtain ⟨value, _, made⟩ := Outcome.bind_eq_ok_iff.mp made
    cases made
    exact .none (by simp [Stmt.occurrences, Node.counted?])
  | .branch _ branches, _, _, made => by
    obtain ⟨choice, choiceMade, made⟩ := Outcome.bind_eq_ok_iff.mp made
    cases made
    have inside := branchCode_numbered inLoop branches choiceMade
    rw [Instruction.blockCountedLoops, Instruction.countedLoops, Instruction.blockCountedLoops, List.append_nil]
    exact .cons rfl inside
  | .loop _ head body, _, _, made => by
    obtain ⟨loop, loopMade, made⟩ := Outcome.bind_eq_ok_iff.mp made
    obtain ⟨code, bodyMade, made⟩ := Outcome.bind_eq_ok_iff.mp made
    cases made
    rw [Instruction.blockCountedLoops, Instruction.blockCountedLoops, List.append_nil]
    exact .loop loopMade bodyMade (sequenceCode_numbered true body bodyMade)
  | .flow .., _, _, made => by
    cases made
    exact .none rfl
  | .wait .., _, _, made => by
    obtain ⟨time, _, made⟩ := Outcome.bind_eq_ok_iff.mp made
    cases made
    exact .none (by simp [Stmt.occurrences, Node.counted?])

/-- The counted loops of a list of statements take their numbers in the order of the tree. -/
theorem sequenceCode_numbered (inLoop : Bool) :
    ∀ (body : Sequence) {index : Nat} {code : List Instruction},
      sequenceCode configuration index body = .ok code →
      NumberedFrom configuration index (body.occurrences scope inLoop) (Instruction.blockCountedLoops code)
  | .mk _ statements, _, _, made => .cons rfl (listCode_numbered inLoop statements made)

theorem listCode_numbered (inLoop : Bool) :
    ∀ (statements : List Stmt) {index : Nat} {code : List Instruction},
      listCode configuration index statements = .ok code →
      NumberedFrom configuration index (Stmt.listOccurrences scope inLoop statements)
        (Instruction.blockCountedLoops code)
  | [], _, _, made => by
    cases made
    exact .none rfl
  | stmt :: rest, _, _, made => by
    obtain ⟨first, firstMade, made⟩ := Outcome.bind_eq_ok_iff.mp made
    obtain ⟨others, othersMade, made⟩ := Outcome.bind_eq_ok_iff.mp made
    cases made
    rw [Instruction.blockCountedLoops_append]
    exact .append (stmtLoops_eq scope inLoop stmt).symm (stmtCode_numbered inLoop stmt firstMade)
      (listCode_numbered inLoop rest othersMade)

theorem branchCode_numbered (inLoop : Bool) :
    ∀ (branches : Branches) {index : Nat} {choice : Choice}, branchCode configuration index branches = .ok choice →
      NumberedFrom configuration index (branches.occurrences scope inLoop) choice.countedLoops
  | .only _ body, _, _, made => by
    obtain ⟨condition, _, made⟩ := Outcome.bind_eq_ok_iff.mp made
    obtain ⟨code, codeMade, made⟩ := Outcome.bind_eq_ok_iff.mp made
    cases made
    exact .after (Expr.counted_occurrences _ _ _) (sequenceCode_numbered inLoop body codeMade)
  | .orElse _ body otherwise, _, _, made => by
    obtain ⟨condition, _, made⟩ := Outcome.bind_eq_ok_iff.mp made
    obtain ⟨first, firstMade, made⟩ := Outcome.bind_eq_ok_iff.mp made
    obtain ⟨second, secondMade, made⟩ := Outcome.bind_eq_ok_iff.mp made
    cases made
    rw [Branches.occurrences, List.append_assoc]
    exact .after (Expr.counted_occurrences _ _ _) (.append (sequenceLoops_eq scope inLoop body).symm
      (sequenceCode_numbered inLoop body firstMade) (sequenceCode_numbered inLoop otherwise secondMade))
  | .orIf _ body rest, _, _, made => by
    obtain ⟨condition, _, made⟩ := Outcome.bind_eq_ok_iff.mp made
    obtain ⟨first, firstMade, made⟩ := Outcome.bind_eq_ok_iff.mp made
    obtain ⟨others, othersMade, made⟩ := Outcome.bind_eq_ok_iff.mp made
    cases made
    rw [Branches.occurrences, List.append_assoc]
    exact .after (Expr.counted_occurrences _ _ _) (.append (sequenceLoops_eq scope inLoop body).symm
      (sequenceCode_numbered inLoop body firstMade) (branchCode_numbered inLoop rest othersMade))

end
end

mutual

theorem Instruction.counters_countedLoops :
    ∀ instruction : Instruction, instruction.countedLoops.map CountedLoop.counter = instruction.counters
  | .command _ => rfl
  | .choice choice => choice.counters_countedLoops
  | .loop head body => by
    rw [Instruction.countedLoops, Instruction.counters, List.map_append,
      Instruction.counters_blockCountedLoops body]
    cases head <;> rfl

/-- Each counter of the code belongs to one of its counted loops, in the same order. -/
theorem Instruction.counters_blockCountedLoops :
    ∀ body : List Instruction,
      (Instruction.blockCountedLoops body).map CountedLoop.counter = Instruction.blockCounters body
  | [] => rfl
  | instruction :: rest => by
    rw [Instruction.blockCountedLoops, Instruction.blockCounters, List.map_append,
      instruction.counters_countedLoops, Instruction.counters_blockCountedLoops rest]

theorem Choice.counters_countedLoops :
    ∀ choice : Choice, choice.countedLoops.map CountedLoop.counter = choice.counters
  | .only _ body => Instruction.counters_blockCountedLoops body
  | .orElse _ body otherwise => by
    rw [Choice.countedLoops, Choice.counters, List.map_append, Instruction.counters_blockCountedLoops body,
      Instruction.counters_blockCountedLoops otherwise]
  | .orIf _ body rest => by
    rw [Choice.countedLoops, Choice.counters, List.map_append, Instruction.counters_blockCountedLoops body,
      rest.counters_countedLoops]

end

end Sketch

/-! ## All names of a sketch -/

open Sketch (Name Family Instruction)

/-- The names of each family, and that no two of them are written alike. -/
structure Sketch.Distinct (program : Program) (configuration : Configuration) (sketch : Sketch) : Prop where
  /-- There is a constant for each role that a component in use has to wire. -/
  pins : sketch.members .pin = (usedComponents configuration (program.usedHardware none)).flatMap
    fun component => component.type.requiredRoles.map (.pin component.name)
  /-- There is an object for each display in use. -/
  displays : sketch.members .display =
    ((usedComponents configuration (program.usedHardware none)).filter fun component =>
      component.type = .lcd).map fun component => .display component.name
  /-- There is a global for each variable. -/
  vars : sketch.members .var = program.names.map .var
  /-- There is a global for each timer in use, and their numbers ascend. -/
  timers : sketch.members .timer = (program.usedHardware none).timers.map .timer ∧
    (program.usedHardware none).timers.Pairwise (· < ·)
  /-- There is a counter for each counted loop. -/
  counters : sketch.members .counter = (List.range program.countedLoops).map .counter
  /-- The counted loops of the body, in the order of the tree, are those of the code, and take
      the counters one after the other. -/
  loops : NumberedFrom configuration 0 (program.body.occurrences program.names false)
    (Instruction.blockCountedLoops sketch.loop)
  loop_counters : (Instruction.blockCountedLoops sketch.loop).map CountedLoop.counter = sketch.members .counter
  /-- No two names of a family have the same text. -/
  texts : ∀ family, ((sketch.members family).map Name.text).Nodup

namespace Program
variable {program : Program} {configuration : Configuration} {used : UsedHardware} {sketch : Sketch}

theorem introduced_of_sketch (made : program.sketch configuration used = .ok sketch) :
    sketch.introduced =
      (Sketch.usedComponents configuration used).flatMap Sketch.componentNames ++
        (program.names.map .var ++ used.timers.map .timer) ++
        (List.range program.countedLoops).map .counter := by
  rw [Sketch.introduced, fileNames_of_sketch made, counters_of_sketch made]

theorem required_of_sketch (made : program.sketch configuration used = .ok sketch) :
    Sketch.Required sketch.introduced := by
  intro component role member
  rcases List.mem_append.mp member with defined | counter
  · exact required_of_mem_fileNames made defined
  · rw [counters_of_sketch made] at counter
    simp at counter

end Program

namespace Sketch

theorem filter_componentNames_pin (component : Component) :
    (componentNames component).filter (fun name => name.family = .pin) =
      component.type.requiredRoles.map (.pin component.name) := by
  unfold componentNames
  split <;> simp [List.filter_map, Function.comp_def, Name.family]

theorem filter_componentNames_display (component : Component) :
    (componentNames component).filter (fun name => name.family = .display) =
      if component.type = .lcd then [.display component.name] else [] := by
  unfold componentNames
  split <;> simp [List.filter_map, Function.comp_def, Name.family]

/-- A component has no other names than constants and an object. -/
theorem filter_componentNames_eq_nil {family : Family} (notPin : family ≠ .pin) (notDisplay : family ≠ .display)
    (component : Component) : (componentNames component).filter (fun name => name.family = family) = [] := by
  unfold componentNames
  split <;> simp [List.filter_map, Function.comp_def, Name.family, notPin.symm, notDisplay.symm]

end Sketch

namespace Program
variable {program : Program} {configuration : Configuration} {used : UsedHardware} {sketch : Sketch}

theorem members_of_sketch (made : program.sketch configuration used = .ok sketch) (family : Family) :
    sketch.members family =
      ((Sketch.usedComponents configuration used).flatMap fun component =>
        (Sketch.componentNames component).filter fun name => name.family = family) ++
      ((if family = .var then program.names.map .var else []) ++
        (if family = .timer then used.timers.map .timer else [])) ++
      if family = .counter then (List.range program.countedLoops).map .counter else [] := by
  rw [Sketch.members, introduced_of_sketch made]
  cases family <;> simp [List.filter_flatMap, List.filter_map, Function.comp_def, Name.family]

theorem members_pin_of_sketch (made : program.sketch configuration used = .ok sketch) :
    sketch.members .pin = (Sketch.usedComponents configuration used).flatMap fun component =>
      component.type.requiredRoles.map (.pin component.name) := by
  rw [members_of_sketch made]
  simp [Sketch.filter_componentNames_pin]

theorem members_display_of_sketch (made : program.sketch configuration used = .ok sketch) :
    sketch.members .display =
      ((Sketch.usedComponents configuration used).filter fun component => component.type = .lcd).map
        fun component => .display component.name := by
  rw [members_of_sketch made]
  simp only [Sketch.filter_componentNames_display, reduceCtorEq, if_false, List.append_nil]
  induction Sketch.usedComponents configuration used with
  | nil => rfl
  | cons component rest ih =>
    by_cases display : component.type = .lcd
    · simp [display, ih]
    · simp [display, ih]

theorem members_other_of_sketch (made : program.sketch configuration used = .ok sketch) {family : Family}
    (notPin : family ≠ .pin) (notDisplay : family ≠ .display) :
    sketch.members family =
      (if family = .var then program.names.map .var else []) ++
        (if family = .timer then used.timers.map .timer else []) ++
        if family = .counter then (List.range program.countedLoops).map .counter else [] := by
  rw [members_of_sketch made]
  simp [Sketch.filter_componentNames_eq_nil notPin notDisplay]

/-- Names of a family that the sketch introduces are not introduced twice. -/
theorem members_nodup (made : program.sketch configuration used = .ok sketch) (names : program.names.Nodup)
    (timers : used.timers.Nodup) (family : Family) : (sketch.members family).Nodup := by
  have components : ((Sketch.usedComponents configuration used).flatMap fun component =>
      (Sketch.componentNames component).filter fun name => name.family = family).Nodup := by
    rw [← List.filter_flatMap]
    refine (Sketch.flatMap_componentNames_nodup ?_).filter _
    exact configuration.names_nodup.sublist (List.filter_sublist.map _)
  cases family with
  | pin => simpa [members_of_sketch made] using components
  | display => simpa [members_of_sketch made] using components
  | var =>
    rw [members_other_of_sketch made (by decide) (by decide)]
    simpa using names.map fun _ _ same => Name.var.inj same
  | timer =>
    rw [members_other_of_sketch made (by decide) (by decide)]
    simpa using timers.map fun _ _ same => Name.timer.inj same
  | counter =>
    rw [members_other_of_sketch made (by decide) (by decide)]
    simpa using List.nodup_range.map fun _ _ same => Name.counter.inj same

theorem distinct_of_sketch (made : program.sketch configuration (program.usedHardware none) = .ok sketch)
    (names : program.names.Nodup) : sketch.Distinct program configuration := by
  have ascending : (program.usedHardware none).timers.Pairwise (· < ·) := Sketch.ascending_pairwise _
  have vars : sketch.members .var = _ := members_other_of_sketch made (by decide) (by decide)
  have timers : sketch.members .timer = _ := members_other_of_sketch made (by decide) (by decide)
  have counters : sketch.members .counter = _ := members_other_of_sketch made (by decide) (by decide)
  simp only [reduceCtorEq, if_true, if_false, List.append_nil, List.nil_append] at vars timers counters
  refine ⟨members_pin_of_sketch made, members_display_of_sketch made, vars, ⟨timers, ascending⟩, counters,
    ?_, ?_, ?_⟩
  · obtain ⟨loop, _, _, _, body, _, _, _, _, _, _, isLoop⟩ := parts_of_sketch made
    rw [isLoop]
    exact Sketch.sequenceCode_numbered program.names false program.body body
  · rw [Instruction.counters_blockCountedLoops, counters_of_sketch made, counters]
  · intro family
    refine (members_nodup made names (ascending.imp UInt8.ne_of_lt) family).map_on ?_
    intro name member other otherMember same
    obtain ⟨introduced, isFamily⟩ := List.mem_filter.mp member
    obtain ⟨otherIntroduced, isOther⟩ := List.mem_filter.mp otherMember
    have related : name.family = other.family :=
      (of_decide_eq_true isFamily).trans (of_decide_eq_true isOther).symm
    exact Name.eq_of_text (required_of_sketch made) introduced otherIntroduced related same

end Program

/-! ## Variables that have passed the validator -/

/-- A source is there only if a validator has found no error in the program. -/
theorem Project.Stores.wellScoped {platform : Platform} {workflow : String} {program : Program}
    {configuration : Configuration} {before : List Worker} {source : String}
    (stores : Stores platform workflow program configuration before source) : program.WellScoped := by
  obtain ⟨project, used, reached, clean, hardware, _⟩ := stores
  have trace := traced reached
  obtain ⟨worker, member, provides⟩ := trace.provider hardware
  have quiet := trace.errors_eq_zero clean member
  refine (@Program.validator_errors_eq_zero_iff program platform configuration).mp ?_
  cases worker with
  | validator => exact quiet
  | configurationValidator =>
    rw [Worker.errors, Worker.findings, Finding.errorCount_append, Program.errorCount_validate_some] at quiet
    show Finding.errorCount (program.validate none) = 0
    omega
  | typeCheck => cases provides
  | codeGenerator => cases provides

/-- Whenever compiling gives a source, no two names of a family in it are written alike: pin
    constants, displays, variables, timers, which ascend, and counters, which the counted loops
    take in the order of the tree. -/
theorem names_unique_within_family {program : Program} {configuration : Configuration} {platform : Platform}
    {workflow : String} {compilation : Compilation} {source : String}
    (compiled : compile program configuration platform workflow = .ok compilation)
    (present : compilation.report.source = some source) :
    ∃ sketch, program.sketch configuration (program.usedHardware none) = .ok sketch ∧
      sketch.render = source ∧ sketch.Distinct program configuration := by
  obtain ⟨before, stores⟩ := exists_stores_of_source compiled present
  obtain ⟨sketch, made, rendered⟩ := stores.exists_sketch
  exact ⟨sketch, made, rendered, Program.distinct_of_sketch made stores.wellScoped.distinct⟩

/-- Counted loops beside and inside one another, and timers that are read in descending
    order. -/
def Draft.Program.nested : Draft.Program where
  declarations := [⟨{}, "a_PIN1", some "NUMBER", .timer {} 9⟩, ⟨{}, "a", some "NUMBER", .timer {} 2⟩]
  body := [
    .branch {} [.sensor {} .key "a", .sensor {} .key "a_PIN1"]
      [[.loop {} (some "TIMES") (some (.var {} "a" (some "NUMBER"))) [
          .loop {} (some "TIMES") (some (.number {} "2")) []]],
        [.loop {} (some "UNTIL") (some (.sensor {} .key "a")) [
          .loop {} (some "TIMES") (some (.number {} "3")) []]]]
      (some [.loop {} (some "TIMES") (some (.number {} "4")) []]),
    .showText {} "a_" (.text {} "done")]

/-- Two buttons and a display, whose names go on into one another. -/
def Draft.Configuration.nested : Draft.Configuration where
  robot := "arduino"
  components := [
    ⟨"a", "KEY", [("PIN1", "2")], none⟩,
    ⟨"a_PIN1", "KEY", [("PIN1", "7")], none⟩,
    ⟨"a_", "LCD", [("RS", "12"), ("E", "11"), ("D4", "5"), ("D5", "4"), ("D6", "3"), ("D7", "6")], none⟩]

theorem nested_names_unique :
    ∃ program configuration, Draft.Program.nested.build = .ok program ∧
      Draft.Configuration.nested.build = .ok configuration ∧
      ∃ compilation source, compile program configuration .arduinoUno "compile" = .ok compilation ∧
        compilation.report.source = some source ∧ program.countedLoops = 4 ∧
        ∃ sketch, program.sketch configuration (program.usedHardware none) = .ok sketch ∧
          sketch.render = source ∧ sketch.Distinct program configuration := by
  have stored : (Draft.Program.nested.build.toOption.bind fun program =>
      Draft.Configuration.nested.build.toOption.bind fun configuration =>
        (compile program configuration .arduinoUno "compile").toOption.map fun compilation =>
          compilation.report.source.isSome && program.countedLoops == 4) = some true := by
    decide +kernel
  obtain ⟨program, built, stored⟩ := Option.bind_eq_some_iff.mp stored
  obtain ⟨configuration, wired, stored⟩ := Option.bind_eq_some_iff.mp stored
  obtain ⟨compilation, compiled, stored⟩ := Option.map_eq_some_iff.mp stored
  obtain ⟨isSource, loops⟩ := Bool.and_eq_true_iff.mp stored
  obtain ⟨source, present⟩ := Option.isSome_iff_exists.mp isSource
  replace compiled := Outcome.eq_ok_of_toOption compiled
  exact ⟨program, configuration, Outcome.eq_ok_of_toOption built, Outcome.eq_ok_of_toOption wired,
    compilation, source, compiled, present, beq_iff_eq.mp loops, names_unique_within_family compiled present⟩

end BlockSketch
