import BlockSketch.Draft.Build
import BlockSketch.Proofs.Transcript

/-!
What names mean inside counted loops. A counted loop declares its counter, and from there to
the end of the loop the counter captures whatever else has its text. Counters are numbered in
the order of the tree and begin like variables, so that the counter of loop 3 captures the
variable `k3`, and no other variable (`Sketch.Counted`).
-/
namespace BlockSketch

/-! ## Counted loops -/

def Node.isCounted : Node → Bool
  | .stmt (.loop _ (.times _) _) => true
  | _ => false

/-- The number of counted loops among nodes. -/
def Occurrence.countedLoops (occurrences : List Occurrence) : Nat :=
  occurrences.countP fun occurrence => occurrence.node.isCounted

@[simp] theorem Occurrence.countedLoops_nil : countedLoops [] = 0 := rfl

@[simp] theorem Occurrence.countedLoops_cons (occurrence : Occurrence) (rest : List Occurrence) :
    countedLoops (occurrence :: rest) = countedLoops rest + if occurrence.node.isCounted then 1 else 0 :=
  List.countP_cons

@[simp] theorem Occurrence.countedLoops_append (first rest : List Occurrence) :
    countedLoops (first ++ rest) = countedLoops first + countedLoops rest :=
  List.countP_append

@[simp] theorem Expr.countedLoops_occurrences (expr : Expr) (scope : List Identifier) (inLoop : Bool) :
    Occurrence.countedLoops (expr.occurrences scope inLoop) = 0 := by
  refine List.countP_eq_zero.mpr ?_
  intro occurrence member
  obtain ⟨part, _, rfl⟩ := List.mem_map.mp member
  exact Bool.false_ne_true

@[simp] theorem LoopHead.countedLoops_occurrences (head : LoopHead) (scope : List Identifier) (inLoop : Bool) :
    Occurrence.countedLoops (head.occurrences scope inLoop) = 0 := by
  cases head <;> simp [LoopHead.occurrences, LoopHead.expression?]

/-- The number of counted loops in a program. -/
def Program.countedLoops (program : Program) : Nat :=
  Occurrence.countedLoops program.occurrences

theorem Declaration.countedLoops_occurrences (scope : List Identifier) (declarations : List Declaration) :
    Occurrence.countedLoops (Declaration.occurrences scope declarations) = 0 := by
  induction declarations generalizing scope with
  | nil => rfl
  | cons declaration rest ih => simp [Declaration.occurrences, Node.isCounted, ih]

namespace Sketch

section
variable (scope : List Identifier)

mutual

theorem stmtLoops_eq (inLoop : Bool) :
    ∀ stmt : Stmt, stmtLoops stmt = Occurrence.countedLoops (stmt.occurrences scope inLoop)
  | .light .. => by simp [Stmt.occurrences, Node.isCounted, stmtLoops]
  | .lightStatus .. => by simp [Stmt.occurrences, Node.isCounted, stmtLoops]
  | .tone .. => by simp [Stmt.occurrences, Node.isCounted, stmtLoops]
  | .motorOn .. => by simp [Stmt.occurrences, Node.isCounted, stmtLoops]
  | .motorStop .. => by simp [Stmt.occurrences, Node.isCounted, stmtLoops]
  | .showText .. => by simp [Stmt.occurrences, Node.isCounted, stmtLoops]
  | .serialWrite .. => by simp [Stmt.occurrences, Node.isCounted, stmtLoops]
  | .block body => sequenceLoops_eq inLoop body
  | .assign .. => by simp [Stmt.occurrences, Node.isCounted, stmtLoops]
  | .branch _ branches => by
    simp [Stmt.occurrences, Node.isCounted, stmtLoops, branchLoops_eq inLoop branches]
  | .loop _ head body => by
    have inside := sequenceLoops_eq true body
    cases head <;> simp [Stmt.occurrences, Node.isCounted, stmtLoops, headLoops, inside, Nat.add_comm]
  | .flow .. => by simp [Stmt.occurrences, Node.isCounted, stmtLoops]
  | .wait .. => by simp [Stmt.occurrences, Node.isCounted, stmtLoops]

theorem sequenceLoops_eq (inLoop : Bool) :
    ∀ body : Sequence, sequenceLoops body = Occurrence.countedLoops (body.occurrences scope inLoop)
  | .mk _ statements => by
    simp [Sequence.occurrences, Node.isCounted, sequenceLoops, listLoops_eq inLoop statements]

theorem listLoops_eq (inLoop : Bool) :
    ∀ statements : List Stmt,
      listLoops statements = Occurrence.countedLoops (Stmt.listOccurrences scope inLoop statements)
  | [] => rfl
  | stmt :: rest => by
    simp [Stmt.listOccurrences, listLoops, stmtLoops_eq inLoop stmt, listLoops_eq inLoop rest]

theorem branchLoops_eq (inLoop : Bool) :
    ∀ branches : Branches,
      branchLoops branches = Occurrence.countedLoops (branches.occurrences scope inLoop)
  | .only _ body => by simp [Branches.occurrences, branchLoops, sequenceLoops_eq inLoop body]
  | .orElse _ body otherwise => by
    simp [Branches.occurrences, branchLoops, sequenceLoops_eq inLoop body,
      sequenceLoops_eq inLoop otherwise]
  | .orIf _ body rest => by
    simp [Branches.occurrences, branchLoops, sequenceLoops_eq inLoop body, branchLoops_eq inLoop rest]

end
end

end Sketch

theorem Program.sequenceLoops_body (program : Program) :
    Sketch.sequenceLoops program.body = program.countedLoops := by
  rw [Sketch.sequenceLoops_eq program.names false program.body]
  simp [countedLoops, occurrences, Node.isCounted, Declaration.countedLoops_occurrences]

/-- The counters of a sketch are numbered in the order of the tree, one for each counted loop
    of the program. -/
theorem Program.counters_of_sketch {program : Program} {configuration : Configuration}
    {used : UsedHardware} {sketch : Sketch} (made : program.sketch configuration used = .ok sketch) :
    Sketch.Instruction.blockCounters sketch.loop =
      (List.range program.countedLoops).map Sketch.Name.counter := by
  obtain ⟨loop, _, _, _, body, _, _, _, _, _, _, isLoop⟩ := parts_of_sketch made
  rw [isLoop, (Sketch.sequenceCode_transcribes program.names false program.body body).counters,
    program.sequenceLoops_body, List.range_eq_range']
  rfl

/-! ## The counters in the course of generation -/

namespace Sketch
variable (configuration : Configuration)

/-- The head of a loop, and the number for the next counter. A counter is taken after the bound
    is written, and before the body. -/
def headEmission : LoopHead → Nat → Except SketchError (Head × Nat)
  | .times count, next => do
    let count ← exprTerm configuration count
    return (.counted (.counter next) count, next + 1)
  | head, next => do
    let head ← loopHead configuration next head
    return (head, next)

mutual

/-- The instructions of a statement, and the number for the next counter. The numbers are not
    counted in advance: each loop takes the next one when its turn comes. -/
def stmtEmission : Stmt → Nat → Except SketchError (List Instruction × Nat)
  | .block body, next => sequenceEmission body next
  | .branch _ branches, next => do
    let (choice, next) ← branchEmission branches next
    return ([.choice choice], next)
  | .loop _ head body, next => do
    let (head, next) ← headEmission configuration head next
    let (body, next) ← sequenceEmission body next
    return ([.loop head body], next)
  | stmt, next => do
    let commands ← stmtCode configuration next stmt
    return (commands, next)

def sequenceEmission : Sequence → Nat → Except SketchError (List Instruction × Nat)
  | .mk _ statements, next => listEmission statements next

def listEmission : List Stmt → Nat → Except SketchError (List Instruction × Nat)
  | [], next => .ok ([], next)
  | stmt :: rest, next => do
    let (first, next) ← stmtEmission stmt next
    let (others, next) ← listEmission rest next
    return (first ++ others, next)

def branchEmission : Branches → Nat → Except SketchError (Choice × Nat)
  | .only condition body, next => do
    let condition ← exprTerm configuration condition
    let (body, next) ← sequenceEmission body next
    return (.only condition body, next)
  | .orElse condition body otherwise, next => do
    let condition ← exprTerm configuration condition
    let (first, next) ← sequenceEmission body next
    let (second, next) ← sequenceEmission otherwise next
    return (.orElse condition first second, next)
  | .orIf condition body rest, next => do
    let condition ← exprTerm configuration condition
    let (first, next) ← sequenceEmission body next
    let (others, next) ← branchEmission rest next
    return (.orIf condition first others, next)

end

variable {configuration}

/-- What takes no counter leaves the number as it is. -/
theorem emission_of_uncounted {α : Type} (made : Except SketchError α) (next : Nat) :
    (do let code ← made; return (code, next)) = made.map fun code => (code, next + 0) := by
  cases made <;> rfl

theorem headEmission_eq (head : LoopHead) (next : Nat) :
    headEmission configuration head next =
      (loopHead configuration next head).map fun made => (made, next + headLoops head) := by
  cases head with
  | times count =>
    simp only [headEmission, loopHead, headLoops, Outcome.map_bind]
    rfl
  | forever => rfl
  | during condition => exact emission_of_uncounted _ next
  | till condition => exact emission_of_uncounted _ next

mutual

/-- Taking numbers in passing comes to the same as counting the loops in advance. -/
theorem stmtEmission_eq : ∀ (stmt : Stmt) (next : Nat),
    stmtEmission configuration stmt next =
      (stmtCode configuration next stmt).map fun made => (made, next + stmtLoops stmt)
  | .light .., _ => rfl
  | .lightStatus _ status, _ => by cases status <;> rfl
  | .tone .., next => emission_of_uncounted _ next
  | .motorOn .., next => emission_of_uncounted _ next
  | .motorStop .., next => emission_of_uncounted _ next
  | .showText .., next => emission_of_uncounted _ next
  | .serialWrite .., next => emission_of_uncounted _ next
  | .block body, next => sequenceEmission_eq body next
  | .assign .., next => emission_of_uncounted _ next
  | .branch _ branches, next => by
    simp only [stmtEmission, stmtCode, stmtLoops, branchEmission_eq branches, Outcome.bind_map, Outcome.map_bind]
    rfl
  | .loop _ head body, next => by
    simp only [stmtEmission, stmtCode, stmtLoops, headEmission_eq, sequenceEmission_eq body, Outcome.bind_map,
      Outcome.map_bind, Nat.add_assoc]
    rfl
  | .flow .., _ => rfl
  | .wait .., next => emission_of_uncounted _ next

theorem sequenceEmission_eq : ∀ (body : Sequence) (next : Nat),
    sequenceEmission configuration body next =
      (sequenceCode configuration next body).map fun made => (made, next + sequenceLoops body)
  | .mk _ statements, next => listEmission_eq statements next

theorem listEmission_eq : ∀ (statements : List Stmt) (next : Nat),
    listEmission configuration statements next =
      (listCode configuration next statements).map fun made => (made, next + listLoops statements)
  | [], _ => rfl
  | stmt :: rest, next => by
    simp only [listEmission, listCode, listLoops, stmtEmission_eq stmt, listEmission_eq rest, Outcome.bind_map,
      Outcome.map_bind, Nat.add_assoc]
    rfl

theorem branchEmission_eq : ∀ (branches : Branches) (next : Nat),
    branchEmission configuration branches next =
      (branchCode configuration next branches).map fun made => (made, next + branchLoops branches)
  | .only _ body, next => by
    simp only [branchEmission, branchCode, branchLoops, sequenceEmission_eq body, Outcome.bind_map, Outcome.map_bind]
    rfl
  | .orElse _ body otherwise, next => by
    simp only [branchEmission, branchCode, branchLoops, sequenceEmission_eq body, sequenceEmission_eq otherwise,
      Outcome.bind_map, Outcome.map_bind, Nat.add_assoc]
    rfl
  | .orIf _ body rest, next => by
    simp only [branchEmission, branchCode, branchLoops, sequenceEmission_eq body, branchEmission_eq rest,
      Outcome.bind_map, Outcome.map_bind, Nat.add_assoc]
    rfl

end

end Sketch

/-- Generation takes the numbers for counters one after the other, and as many as there are
    counted loops. -/
theorem Program.emission_of_sketch {program : Program} {configuration : Configuration}
    {used : UsedHardware} {sketch : Sketch} (made : program.sketch configuration used = .ok sketch) :
    Sketch.sequenceEmission configuration program.body 0 = .ok (sketch.loop, program.countedLoops) := by
  obtain ⟨loop, _, _, _, body, _, _, _, _, _, _, isLoop⟩ := parts_of_sketch made
  rw [Sketch.sequenceEmission_eq, body, isLoop, program.sequenceLoops_body, Nat.zero_add]
  rfl

/-! ## References inside loops -/

namespace Sketch

/-- A reference to a name, inside loops with these counters. -/
structure Use where
  name : Name
  inside : List Name

/-- A counter around the reference has the same text. -/
def Use.Captured (use : Use) : Prop :=
  ∃ counter ∈ use.inside, counter.text = use.name.text

instance (use : Use) : Decidable use.Captured :=
  inferInstanceAs (Decidable (∃ counter ∈ use.inside, counter.text = use.name.text))

/-- References to names, all inside the same loops. -/
def Use.all (inside names : List Name) : List Use :=
  names.map fun name => ⟨name, inside⟩

mutual

/-- The references of an instruction that stands inside loops with these counters. The counter
    of a loop is declared before its bound is read. -/
def Instruction.uses (inside : List Name) : Instruction → List Use
  | .command command => Use.all inside command.names
  | .choice choice => choice.uses inside
  | .loop head body =>
    Use.all (head.counters ++ inside) head.names ++ Instruction.blockUses (head.counters ++ inside) body

def Instruction.blockUses (inside : List Name) : List Instruction → List Use
  | [] => []
  | instruction :: rest => instruction.uses inside ++ Instruction.blockUses inside rest

def Choice.uses (inside : List Name) : Choice → List Use
  | .only condition body => Use.all inside condition.names ++ Instruction.blockUses inside body
  | .orElse condition body otherwise =>
    Use.all inside condition.names ++ Instruction.blockUses inside body ++
      Instruction.blockUses inside otherwise
  | .orIf condition body rest =>
    Use.all inside condition.names ++ Instruction.blockUses inside body ++ rest.uses inside

end

/-- All references of a sketch; those of the setup stand inside no loop. -/
def uses (sketch : Sketch) : List Use :=
  Use.all [] (sketch.setup.flatMap Command.names) ++ Instruction.blockUses [] sketch.loop

/-- Around the references are counters from outside or of their own loops. -/
def Surrounded (inside counters : List Name) (uses : List Use) : Prop :=
  ∀ use ∈ uses, use.inside ⊆ inside ++ counters

namespace Surrounded
variable {inside counters more : List Name} {first rest : List Use}

theorem all (names : List Name) : Surrounded inside [] (Use.all inside names) := by
  intro use member
  obtain ⟨name, _, rfl⟩ := List.mem_map.mp member
  exact List.subset_append_left inside []

theorem append (left : Surrounded inside counters first) (right : Surrounded inside more rest) :
    Surrounded inside (counters ++ more) (first ++ rest) := by
  intro use member counter around
  simp only [List.mem_append]
  rcases List.mem_append.mp member with inFirst | inRest
  · rcases List.mem_append.mp (left use inFirst around) with outside | own
    · exact .inl outside
    · exact .inr (.inl own)
  · rcases List.mem_append.mp (right use inRest around) with outside | own
    · exact .inl outside
    · exact .inr (.inr own)

end Surrounded

mutual

theorem Instruction.surrounded (inside : List Name) :
    ∀ instruction : Instruction, Surrounded inside instruction.counters (instruction.uses inside)
  | .command command => .all command.names
  | .choice choice => choice.surrounded inside
  | .loop head body => by
    have within : Surrounded (head.counters ++ inside) (Instruction.blockCounters body)
        (Instruction.uses inside (.loop head body)) :=
      .append (.all head.names) (Instruction.block_surrounded (head.counters ++ inside) body)
    intro use member counter around
    have among := within use member around
    simp only [Instruction.counters, List.mem_append] at among ⊢
    tauto

theorem Instruction.block_surrounded (inside : List Name) :
    ∀ body : List Instruction,
      Surrounded inside (Instruction.blockCounters body) (Instruction.blockUses inside body)
  | [] => by
    intro use member
    cases member
  | instruction :: rest =>
    .append (instruction.surrounded inside) (Instruction.block_surrounded inside rest)

theorem Choice.surrounded (inside : List Name) :
    ∀ choice : Choice, Surrounded inside choice.counters (choice.uses inside)
  | .only condition body =>
    .append (.all condition.names) (Instruction.block_surrounded inside body)
  | .orElse condition body otherwise =>
    .append (.append (.all condition.names) (Instruction.block_surrounded inside body))
      (Instruction.block_surrounded inside otherwise)
  | .orIf condition body rest =>
    .append (.append (.all condition.names) (Instruction.block_surrounded inside body))
      (rest.surrounded inside)

end

/-- Only the loops of the sketch surround its references. -/
theorem inside_subset {sketch : Sketch} {use : Use} (member : use ∈ sketch.uses) :
    use.inside ⊆ Instruction.blockCounters sketch.loop := by
  rcases List.mem_append.mp member with setup | loop
  · obtain ⟨name, _, rfl⟩ := List.mem_map.mp setup
    exact List.nil_subset _
  · exact Instruction.block_surrounded [] sketch.loop use loop

theorem Name.counter_text_eq_iff {index : Nat} {name : Identifier} :
    (Name.counter index).text = (Name.var name).text ↔ name.text = "k" ++ toString index := by
  have variable_text : (Name.var name).text = "___" ++ name.text := rfl
  have counter_text : (Name.counter index).text = "___" ++ ("k" ++ toString index) := by
    rw [← String.append_assoc]
    rfl
  rw [variable_text, counter_text, String.append_right_inj]
  exact eq_comm

end Sketch

/-! ## Captured variables -/

section
variable {program : Program} {configuration : Configuration} {platform : Platform} {workflow : String}
  {compilation : Compilation} {source : String}

/-- A source is there only if a generator has stored it. -/
theorem exists_stores_of_source (compiled : compile program configuration platform workflow = .ok compilation)
    (present : compilation.report.source = some source) :
    ∃ before, Project.Stores platform workflow program configuration before source := by
  obtain ⟨workers, defined, _⟩ := Outcome.bind_eq_ok_iff.mp compiled
  rcases compile_cases defined compiled with
    ⟨last, log, reached, rfl⟩ | ⟨ran, rest, last, log, split, reached, lacking, rfl⟩
  · obtain ⟨⟨before, _, _, stores⟩, _⟩ := Project.stores_of_source reached present
    exact ⟨before, stores⟩
  · obtain ⟨⟨before, _, _, stores⟩, _⟩ := Project.stores_of_source reached present
    exact ⟨before, stores⟩

/-- A source is there only if a sketch of the program was rendered. -/
theorem exists_sketch_of_source (compiled : compile program configuration platform workflow = .ok compilation)
    (present : compilation.report.source = some source) :
    ∃ sketch, program.sketch configuration (program.usedHardware none) = .ok sketch ∧
      sketch.render = source := by
  obtain ⟨before, stores⟩ := exists_stores_of_source compiled present
  exact stores.exists_sketch

end

open Sketch (Use Name Instruction)

/-- The counters of the sketch are `___k0`, `___k1` and so on, one for each counted loop of the
    program, in the order in which the loops are generated. One of them has the text of a variable
    if the variable is called `k` and the number of a loop, and it captures the references to this
    variable in the bound and in the body of the loop. All other references to variables mean the
    variables. -/
structure Sketch.Counted (program : Program) (configuration : Configuration) (sketch : Sketch) : Prop where
  emitted : Sketch.sequenceEmission configuration program.body 0 = .ok (sketch.loop, program.countedLoops)
  counters : Instruction.blockCounters sketch.loop = (List.range program.countedLoops).map Name.counter
  clashes : ∀ name ∈ program.names,
    (∃ counter ∈ Instruction.blockCounters sketch.loop, counter.text = (Name.var name).text) ↔
      ∃ index < program.countedLoops, name.text = "k" ++ toString index
  captured : ∀ use ∈ sketch.uses, ∀ name, use.name = .var name →
    (use.Captured ↔ ∃ index, .counter index ∈ use.inside ∧ name.text = "k" ++ toString index)

theorem Program.counted_of_sketch {program : Program} {configuration : Configuration}
    {used : UsedHardware} {sketch : Sketch} (made : program.sketch configuration used = .ok sketch) :
    sketch.Counted program configuration := by
  have counters := counters_of_sketch made
  refine ⟨emission_of_sketch made, counters, ?_, ?_⟩
  · intro name _
    rw [counters]
    constructor
    · rintro ⟨counter, member, same⟩
      obtain ⟨index, listed, rfl⟩ := List.mem_map.mp member
      exact ⟨index, List.mem_range.mp listed, Name.counter_text_eq_iff.mp same⟩
    · rintro ⟨index, small, named⟩
      exact ⟨.counter index, List.mem_map_of_mem (List.mem_range.mpr small),
        Name.counter_text_eq_iff.mpr named⟩
  · rintro ⟨_, inside⟩ member name rfl
    constructor
    · rintro ⟨counter, around, same⟩
      have listed := Sketch.inside_subset member around
      rw [counters] at listed
      obtain ⟨index, _, rfl⟩ := List.mem_map.mp listed
      exact ⟨index, around, Name.counter_text_eq_iff.mp same⟩
    · rintro ⟨index, around, named⟩
      exact ⟨.counter index, around, Name.counter_text_eq_iff.mpr named⟩

/-- The counter of a loop captures the variable that is called like it, and no other. -/
theorem captured_iff_named_as_counter {program : Program} {configuration : Configuration}
    {platform : Platform} {workflow : String} {compilation : Compilation} {source : String}
    (compiled : compile program configuration platform workflow = .ok compilation)
    (present : compilation.report.source = some source) :
    ∃ sketch, program.sketch configuration (program.usedHardware none) = .ok sketch ∧
      sketch.render = source ∧ sketch.Counted program configuration := by
  obtain ⟨sketch, made, rendered⟩ := exists_sketch_of_source compiled present
  exact ⟨sketch, made, rendered, Program.counted_of_sketch made⟩

/-- Repeats nothing, as often as a variable says that is called like the counter. -/
def Draft.Program.tally : Draft.Program where
  declarations := [⟨{}, "k0", some "NUMBER", .number {} "3"⟩]
  body := [.loop {} (some "TIMES") (some (.var {} "k0" (some "NUMBER"))) []]

/-- The loop compares its counter with itself. -/
theorem tally_bound_captured :
    ∃ program, Draft.Program.tally.build = .ok program ∧
      ∃ compilation sketch, compile program .empty .arduinoUno "compile" = .ok compilation ∧
        program.sketch .empty (program.usedHardware none) = .ok sketch ∧
        compilation.report.source = some sketch.render ∧
        ∃ name ∈ program.names, ∃ counter ∈ Instruction.blockCounters sketch.loop,
          counter.text = (Name.var name).text ∧
            ∃ use ∈ sketch.uses, use.name = .var name ∧ use.Captured := by
  have clashes : (Draft.Program.tally.build.toOption.bind fun program =>
      (compile program .empty .arduinoUno "compile").toOption.bind fun compilation =>
        (program.sketch .empty (program.usedHardware none)).toOption.map fun sketch =>
          decide (compilation.report.source = some sketch.render ∧
            ∃ name ∈ program.names, ∃ counter ∈ Instruction.blockCounters sketch.loop,
              counter.text = (Name.var name).text ∧
                ∃ use ∈ sketch.uses, use.name = .var name ∧ use.Captured)) = some true := by
    decide +kernel
  obtain ⟨program, built, clashes⟩ := Option.bind_eq_some_iff.mp clashes
  obtain ⟨compilation, compiled, clashes⟩ := Option.bind_eq_some_iff.mp clashes
  obtain ⟨sketch, made, clashes⟩ := Option.map_eq_some_iff.mp clashes
  exact ⟨program, Outcome.eq_ok_of_toOption built, compilation, sketch,
    Outcome.eq_ok_of_toOption compiled, Outcome.eq_ok_of_toOption made, of_decide_eq_true clashes⟩

theorem tally_counted :
    ∃ program, Draft.Program.tally.build = .ok program ∧
      ∃ compilation source, compile program .empty .arduinoUno "compile" = .ok compilation ∧
        compilation.report.source = some source ∧
        ∃ sketch, program.sketch .empty (program.usedHardware none) = .ok sketch ∧
          sketch.render = source ∧ sketch.Counted program .empty := by
  have stored : (Draft.Program.tally.build.toOption.bind fun program =>
      (compile program .empty .arduinoUno "compile").toOption.map fun compilation =>
        compilation.report.source.isSome) = some true := by
    decide +kernel
  obtain ⟨program, built, stored⟩ := Option.bind_eq_some_iff.mp stored
  obtain ⟨compilation, compiled, stored⟩ := Option.map_eq_some_iff.mp stored
  obtain ⟨source, present⟩ := Option.isSome_iff_exists.mp stored
  replace compiled := Outcome.eq_ok_of_toOption compiled
  exact ⟨program, Outcome.eq_ok_of_toOption built, compilation, source, compiled, present,
    captured_iff_named_as_counter compiled present⟩

end BlockSketch
