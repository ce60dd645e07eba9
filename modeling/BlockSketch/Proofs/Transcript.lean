import BlockSketch.Proofs.Enclosure

/-!
What the code of a program keeps of the program: the texts that it quotes, in the order of
the tree, and one counter for each counted loop, numbered in the order of the tree
(`Sketch.Transcribes`).
-/
namespace BlockSketch

/-! ## The texts and counted loops of a program -/

/-- The text that a node quotes. -/
def Node.quoted? : Node → Option String
  | .expr (.text _ value) => some value
  | _ => none

/-- The texts that nodes quote. -/
def Occurrence.texts (occurrences : List Occurrence) : List String :=
  occurrences.filterMap fun occurrence => occurrence.node.quoted?

@[simp] theorem Occurrence.texts_nil : texts [] = [] := rfl

@[simp] theorem Occurrence.texts_append (first rest : List Occurrence) :
    texts (first ++ rest) = texts first ++ texts rest :=
  List.filterMap_append

@[simp] theorem Occurrence.texts_cons (occurrence : Occurrence) (rest : List Occurrence) :
    texts (occurrence :: rest) = occurrence.node.quoted?.toList ++ texts rest := by
  unfold texts
  cases quoted : occurrence.node.quoted? <;> simp [quoted]

theorem Expr.texts_binary {label : Label} {op : BinaryOp} {left right : Expr} {scope : List Identifier}
    {inLoop : Bool} :
    Occurrence.texts ((Expr.binary label op left right).occurrences scope inLoop) =
      Occurrence.texts (left.occurrences scope inLoop) ++
        Occurrence.texts (right.occurrences scope inLoop) := by
  simp [Expr.occurrences, Expr.parts, Node.quoted?]

theorem Expr.texts_unary {label : Label} {op : UnaryOp} {operand : Expr} {scope : List Identifier}
    {inLoop : Bool} :
    Occurrence.texts ((Expr.unary label op operand).occurrences scope inLoop) =
      Occurrence.texts (operand.occurrences scope inLoop) := by
  simp [Expr.occurrences, Expr.parts, Node.quoted?]

/-- The texts that a program quotes, those of the initial values first. -/
def Program.texts (program : Program) : List String :=
  Occurrence.texts program.occurrences

namespace Sketch

open Scan (literals)

variable {configuration : Configuration} {scope : List Identifier} {inLoop : Bool}

/-! ## Terms -/

theorem sensorTerm_texts {port : Identifier} {device : Sensor} {term : Term}
    (made : sensorTerm configuration port device = .ok term) : literals term.lexemes = [] := by
  cases device with
  | key =>
    obtain ⟨pin, _, made⟩ := Outcome.bind_eq_ok_iff.mp made
    cases made
    rfl
  | ultrasonic =>
    obtain ⟨trigger, _, made⟩ := Outcome.bind_eq_ok_iff.mp made
    obtain ⟨echo, _, made⟩ := Outcome.bind_eq_ok_iff.mp made
    cases made
    rfl
  | light =>
    obtain ⟨pin, _, made⟩ := Outcome.bind_eq_ok_iff.mp made
    cases made
    rfl
  | temperature =>
    obtain ⟨pin, _, made⟩ := Outcome.bind_eq_ok_iff.mp made
    cases made
    rfl

theorem Term.literals_binary (op : BinaryOp) (left right : Term) :
    literals (binary op left right).lexemes = literals left.lexemes ++ literals right.lexemes := by
  by_cases remainder : op = .mod
  · subst remainder
    simp [lexemes_mod]
  · simp [lexemes_binary remainder]

theorem exprTerm_texts {expr : Expr} {term : Term} (made : exprTerm configuration expr = .ok term) :
    Occurrence.texts (expr.occurrences scope inLoop) = literals term.lexemes := by
  induction expr generalizing term with
  | binary label op left right first second =>
    obtain ⟨leftTerm, leftMade, made⟩ := Outcome.bind_eq_ok_iff.mp made
    obtain ⟨rightTerm, rightMade, made⟩ := Outcome.bind_eq_ok_iff.mp made
    cases made
    rw [Expr.texts_binary, first leftMade, second rightMade, Term.literals_binary]
  | unary label op operand only =>
    obtain ⟨inner, innerMade, made⟩ := Outcome.bind_eq_ok_iff.mp made
    cases made
    rw [Expr.texts_unary, only innerMade]
    rfl
  | sensor label device port => exact (sensorTerm_texts made).symm
  | _ =>
    cases made
    rfl

/-! ## Code -/

/-- The counters of so many loops, from an index on. -/
def numbered (index loops : Nat) : List Name :=
  (List.range' index loops).map .counter

theorem numbered_append (index first rest : Nat) :
    numbered index first ++ numbered (index + first) rest = numbered index (first + rest) := by
  rw [numbered, numbered, numbered, ← List.map_append, List.range'_append_1]

/-- The code quotes the texts of the nodes, and its loops have as many counters, numbered from
    the index on. -/
structure Transcribes (occurrences : List Occurrence) (index loops : Nat) (code : List Instruction) :
    Prop where
  texts : Occurrence.texts occurrences = literals (Instruction.blockLexemes code)
  counters : Instruction.blockCounters code = numbered index loops

theorem Instruction.blockLexemes_append (first rest : List Instruction) :
    blockLexemes (first ++ rest) = blockLexemes first ++ blockLexemes rest := by
  induction first with
  | nil => rfl
  | cons instruction first ih => simp [blockLexemes, ih]

theorem Instruction.blockCounters_append (first rest : List Instruction) :
    blockCounters (first ++ rest) = blockCounters first ++ blockCounters rest := by
  induction first with
  | nil => rfl
  | cons instruction first ih => simp [blockCounters, ih]

namespace Transcribes
variable {occurrences others : List Occurrence} {index loops more : Nat}

theorem command {command : Command} (quotes : Occurrence.texts occurrences = literals command.lexemes) :
    Transcribes occurrences index 0 [.command command] := by
  refine ⟨?_, rfl⟩
  simpa [Instruction.blockLexemes, Instruction.lexemes] using quotes

theorem append {first rest : List Instruction} (transcribes : Transcribes occurrences index loops first)
    (next : Transcribes others (index + loops) more rest) :
    Transcribes (occurrences ++ others) index (loops + more) (first ++ rest) := by
  constructor
  · simp [Instruction.blockLexemes_append, transcribes.texts, next.texts]
  · rw [Instruction.blockCounters_append, transcribes.counters, next.counters, numbered_append]

end Transcribes

theorem loopHead_transcribes (scope : List Identifier) (inLoop : Bool) {index : Nat} {head : LoopHead}
    {loop : Head} (made : loopHead configuration index head = .ok loop) :
    Occurrence.texts (head.occurrences scope inLoop) = literals loop.lexemes ∧
      loop.counters = numbered index (headLoops head) := by
  cases head with
  | forever =>
    cases made
    exact ⟨rfl, rfl⟩
  | times count =>
    obtain ⟨term, termMade, made⟩ := Outcome.bind_eq_ok_iff.mp made
    cases made
    refine ⟨?_, rfl⟩
    simp [LoopHead.occurrences, LoopHead.expression?, Head.lexemes, exprTerm_texts termMade]
  | during condition =>
    obtain ⟨term, termMade, made⟩ := Outcome.bind_eq_ok_iff.mp made
    cases made
    exact ⟨exprTerm_texts termMade, rfl⟩
  | till condition =>
    obtain ⟨term, termMade, made⟩ := Outcome.bind_eq_ok_iff.mp made
    cases made
    exact ⟨exprTerm_texts termMade, rfl⟩

section
variable (scope : List Identifier)

mutual

theorem stmtCode_transcribes (inLoop : Bool) :
    ∀ (stmt : Stmt) {index : Nat} {code : List Instruction}, stmtCode configuration index stmt = .ok code →
      Transcribes (stmt.occurrences scope inLoop) index (stmtLoops stmt) code
  | .light .., _, _, made => by
    cases made
    exact .command rfl
  | .lightStatus _ .off, _, _, made => by
    cases made
    exact .command rfl
  | .lightStatus _ .reset, _, _, made => by
    cases made
    exact .command rfl
  | .tone .., _, _, made => by
    obtain ⟨pin, _, made⟩ := Outcome.bind_eq_ok_iff.mp made
    obtain ⟨frequency, frequencyMade, made⟩ := Outcome.bind_eq_ok_iff.mp made
    obtain ⟨duration, durationMade, made⟩ := Outcome.bind_eq_ok_iff.mp made
    cases made
    refine .command ?_
    simp [Command.lexemes, Stmt.occurrences, Node.quoted?, exprTerm_texts frequencyMade,
      exprTerm_texts durationMade]
  | .motorOn .., _, _, made => by
    obtain ⟨forward, _, made⟩ := Outcome.bind_eq_ok_iff.mp made
    obtain ⟨backward, _, made⟩ := Outcome.bind_eq_ok_iff.mp made
    obtain ⟨power, powerMade, made⟩ := Outcome.bind_eq_ok_iff.mp made
    cases made
    refine .command ?_
    simp [Command.lexemes, Stmt.occurrences, Node.quoted?, exprTerm_texts powerMade]
  | .motorStop .., _, _, made => by
    obtain ⟨forward, _, made⟩ := Outcome.bind_eq_ok_iff.mp made
    obtain ⟨backward, _, made⟩ := Outcome.bind_eq_ok_iff.mp made
    cases made
    exact .command rfl
  | .showText .., _, _, made => by
    obtain ⟨display, _, made⟩ := Outcome.bind_eq_ok_iff.mp made
    obtain ⟨text, textMade, made⟩ := Outcome.bind_eq_ok_iff.mp made
    cases made
    refine .command ?_
    simp [Command.lexemes, Stmt.occurrences, Node.quoted?, exprTerm_texts textMade]
  | .serialWrite .., _, _, made => by
    obtain ⟨value, valueMade, made⟩ := Outcome.bind_eq_ok_iff.mp made
    cases made
    refine .command ?_
    simp [Command.lexemes, Stmt.occurrences, Node.quoted?, exprTerm_texts valueMade]
  | .block body, _, _, made => sequenceCode_transcribes inLoop body made
  | .assign .., _, _, made => by
    obtain ⟨value, valueMade, made⟩ := Outcome.bind_eq_ok_iff.mp made
    cases made
    refine .command ?_
    simp [Command.lexemes, Stmt.occurrences, Node.quoted?, exprTerm_texts valueMade]
  | .branch _ branches, _, _, made => by
    obtain ⟨choice, choiceMade, made⟩ := Outcome.bind_eq_ok_iff.mp made
    cases made
    obtain ⟨texts, counters⟩ := branchCode_transcribes inLoop branches choiceMade
    constructor
    · simp [Stmt.occurrences, Node.quoted?, texts, Instruction.blockLexemes, Instruction.lexemes]
    · simp [Instruction.blockCounters, Instruction.counters, counters, stmtLoops]
  | .loop _ head body, _, _, made => by
    obtain ⟨loop, loopMade, made⟩ := Outcome.bind_eq_ok_iff.mp made
    obtain ⟨code, bodyMade, made⟩ := Outcome.bind_eq_ok_iff.mp made
    cases made
    obtain ⟨texts, counters⟩ := loopHead_transcribes scope inLoop loopMade
    have inside := sequenceCode_transcribes true body bodyMade
    constructor
    · simp [Stmt.occurrences, Node.quoted?, texts, inside.texts, Instruction.blockLexemes,
        Instruction.lexemes]
    · simp [Instruction.blockCounters, Instruction.counters, counters, inside.counters, stmtLoops,
        numbered_append]
  | .flow _ way, _, _, made => by
    cases made
    refine .command ?_
    cases way <;> rfl
  | .wait .., _, _, made => by
    obtain ⟨time, timeMade, made⟩ := Outcome.bind_eq_ok_iff.mp made
    cases made
    refine .command ?_
    simp [Command.lexemes, Stmt.occurrences, Node.quoted?, exprTerm_texts timeMade]

/-- The code of a list of statements quotes their texts in tree order, and numbers the
    counters of their loops in tree order. -/
theorem sequenceCode_transcribes (inLoop : Bool) :
    ∀ (body : Sequence) {index : Nat} {code : List Instruction}, sequenceCode configuration index body = .ok code →
      Transcribes (body.occurrences scope inLoop) index (sequenceLoops body) code
  | .mk _ statements, _, _, made => by
    obtain ⟨texts, counters⟩ := listCode_transcribes inLoop statements made
    exact ⟨by simp [Sequence.occurrences, Node.quoted?, texts], counters⟩

theorem listCode_transcribes (inLoop : Bool) :
    ∀ (statements : List Stmt) {index : Nat} {code : List Instruction},
      listCode configuration index statements = .ok code →
      Transcribes (Stmt.listOccurrences scope inLoop statements) index (listLoops statements) code
  | [], _, _, made => by
    cases made
    exact ⟨rfl, rfl⟩
  | stmt :: rest, _, _, made => by
    obtain ⟨first, firstMade, made⟩ := Outcome.bind_eq_ok_iff.mp made
    obtain ⟨others, othersMade, made⟩ := Outcome.bind_eq_ok_iff.mp made
    cases made
    exact (stmtCode_transcribes inLoop stmt firstMade).append (listCode_transcribes inLoop rest othersMade)

theorem branchCode_transcribes (inLoop : Bool) :
    ∀ (branches : Branches) {index : Nat} {choice : Choice}, branchCode configuration index branches = .ok choice →
      Occurrence.texts (branches.occurrences scope inLoop) = literals choice.lexemes ∧
        choice.counters = numbered index (branchLoops branches)
  | .only _ body, _, _, made => by
    obtain ⟨condition, conditionMade, made⟩ := Outcome.bind_eq_ok_iff.mp made
    obtain ⟨code, codeMade, made⟩ := Outcome.bind_eq_ok_iff.mp made
    cases made
    have inside := sequenceCode_transcribes inLoop body codeMade
    refine ⟨?_, inside.counters⟩
    simp [Branches.occurrences, Choice.lexemes, exprTerm_texts conditionMade, inside.texts]
  | .orElse _ body otherwise, _, _, made => by
    obtain ⟨condition, conditionMade, made⟩ := Outcome.bind_eq_ok_iff.mp made
    obtain ⟨first, firstMade, made⟩ := Outcome.bind_eq_ok_iff.mp made
    obtain ⟨second, secondMade, made⟩ := Outcome.bind_eq_ok_iff.mp made
    cases made
    have inFirst := sequenceCode_transcribes inLoop body firstMade
    have inSecond := sequenceCode_transcribes inLoop otherwise secondMade
    constructor
    · simp [Branches.occurrences, Choice.lexemes, exprTerm_texts conditionMade, inFirst.texts, inSecond.texts]
    · simp [Choice.counters, inFirst.counters, inSecond.counters, branchLoops, numbered_append]
  | .orIf _ body rest, _, _, made => by
    obtain ⟨condition, conditionMade, made⟩ := Outcome.bind_eq_ok_iff.mp made
    obtain ⟨first, firstMade, made⟩ := Outcome.bind_eq_ok_iff.mp made
    obtain ⟨others, othersMade, made⟩ := Outcome.bind_eq_ok_iff.mp made
    cases made
    have inFirst := sequenceCode_transcribes inLoop body firstMade
    obtain ⟨texts, counters⟩ := branchCode_transcribes inLoop rest othersMade
    constructor
    · simp [Branches.occurrences, Choice.lexemes, exprTerm_texts conditionMade, inFirst.texts, texts]
    · simp [Choice.counters, inFirst.counters, counters, branchLoops, numbered_append]

end
end

/-! ## Sketches -/

/-- The commands that give the variables their initial values quote the texts of the
    values. -/
theorem initialCommands_texts {declarations : List Declaration} {commands : List Command}
    (made : declarations.mapM (initialCommand configuration) = .ok commands) :
    Occurrence.texts (Declaration.occurrences scope declarations) =
      literals (commands.flatMap Command.lexemes) := by
  induction declarations generalizing scope commands with
  | nil =>
    cases made
    rfl
  | cons declaration rest ih =>
    obtain ⟨command, others, rfl, first, later⟩ := Outcome.mapM_cons_eq_ok made
    obtain ⟨value, valueMade, first⟩ := Outcome.bind_eq_ok_iff.mp first
    cases first
    simp [Declaration.occurrences, Node.quoted?, Command.lexemes, exprTerm_texts valueMade, ih later]

theorem literals_flatMap_eq_nil {commands : List Command}
    (silent : ∀ command ∈ commands, literals command.lexemes = []) :
    literals (commands.flatMap Command.lexemes) = [] := by
  induction commands with
  | nil => rfl
  | cons command rest ih =>
    obtain ⟨first, others⟩ := List.forall_mem_cons.mp silent
    rw [List.flatMap_cons, Scan.literals_append, first, ih others]
    rfl

theorem componentSetup_texts {component : Component} {commands : List Command}
    (made : componentSetup configuration component = .ok commands) :
    ∀ command ∈ commands, literals command.lexemes = [] := by
  obtain ⟨modes, modesMade, made⟩ := Outcome.bind_eq_ok_iff.mp made
  have silent : ∀ command ∈ modes, literals command.lexemes = [] := by
    intro command member
    obtain ⟨⟨role, mode⟩, _, done⟩ := Outcome.exists_item_of_mem modesMade member
    obtain ⟨pin, _, isMode⟩ := Outcome.bind_eq_ok_iff.mp done
    cases isMode
    cases mode <;> rfl
  by_cases display : component.type = .lcd
  · rw [if_pos display] at made
    cases made
    exact List.forall_mem_cons.mpr ⟨rfl, silent⟩
  · rw [if_neg display] at made
    cases made
    exact silent

end Sketch

namespace Program

variable {program : Program} {configuration : Configuration} {used : UsedHardware} {sketch : Sketch}

/-- A sketch quotes the texts of its program, and nothing else. -/
theorem texts_of_sketch (made : program.sketch configuration used = .ok sketch) :
    Scan.literals (sketch.setup.flatMap Sketch.Command.lexemes) ++
      Scan.literals (Sketch.Instruction.blockLexemes sketch.loop) = program.texts := by
  obtain ⟨loop, initial, _, setup, body, values, _, prepared, _, _, isSetup, isLoop⟩ := parts_of_sketch made
  have silent : ∀ command ∈ (if used.serial then [.openSerial] else []) ++ setup.flatten,
      Scan.literals command.lexemes = [] := by
    intro command member
    rcases List.mem_append.mp member with serial | own
    · split at serial
      · obtain rfl := List.mem_singleton.mp serial
        rfl
      · cases serial
    · obtain ⟨commands, listed, inside⟩ := List.mem_flatten.mp own
      obtain ⟨component, _, done⟩ := Outcome.exists_item_of_mem prepared listed
      exact Sketch.componentSetup_texts done command inside
  have inInitial : Occurrence.texts (Declaration.occurrences [] program.task.declarations) = _ :=
    Sketch.initialCommands_texts values
  have inLoop := (Sketch.sequenceCode_transcribes program.names false program.body body).texts
  rw [isSetup, isLoop, List.flatMap_append, Scan.literals_append, Sketch.literals_flatMap_eq_nil silent,
    List.nil_append, ← inInitial, ← inLoop]
  simp [texts, occurrences, Node.quoted?]

end Program

open Quotation (read isPlain Balanced)

/-- A generated source ends outside literals. Its literals are the texts of the program in
    the order of the tree, and what stands outside of them is plain text with brackets that
    match, whatever the texts are. -/
theorem generated_texts_enclosed {program : Program} {configuration : Configuration}
    {used : UsedHardware} {source : String} (generated : program.generate configuration used = .ok source) :
    (read source).zone = .code ∧ (read source).literals = program.texts ∧
      (∀ c ∈ (read source).code, isPlain c) ∧ Balanced (read source).code := by
  obtain ⟨sketch, made, rfl⟩ := Program.exists_sketch_of_generate generated
  obtain ⟨zone, plain, closes, quoted⟩ := sketch.render_enclosed
  exact ⟨zone, quoted.trans (Program.texts_of_sketch made), List.all_eq_true.mp plain, closes⟩

/-- Sends texts with quotes, backslashes, brackets and the ends of lines inside. -/
def Program.tricky : Program where
  task := ⟨⟨[0], {}⟩,
    [⟨⟨[0, 0], {}⟩, ⟨"title", by decide⟩, .string, .text ⟨[0, 0, 0], {}⟩ "\"); // \x7b\\"⟩]⟩
  body := .mk ⟨[1], {}⟩ [
    .loop ⟨[0, 1], {}⟩ .forever (.mk ⟨[0, 0, 1], {}⟩ [
      .serialWrite ⟨[0, 0, 0, 1], {}⟩ (.text ⟨[0, 0, 0, 0, 1], {}⟩ "\r\n\x7d\n\\n\""),
      .serialWrite ⟨[1, 0, 0, 1], {}⟩ (.text ⟨[0, 1, 0, 0, 1], {}⟩ "")])]

theorem tricky_texts_enclosed :
    ∃ source, Program.tricky.generate .sonar ⟨["screen"], [3], true, false⟩ = .ok source ∧
      (read source).zone = .code ∧
      (read source).literals = ["\"); // \x7b\\", "\r\n\x7d\n\\n\"", ""] ∧
      (∀ c ∈ (read source).code, isPlain c) ∧ Balanced (read source).code := by
  obtain ⟨source, generated⟩ : ∃ source,
      Program.tricky.generate .sonar ⟨["screen"], [3], true, false⟩ = .ok source := ⟨_, rfl⟩
  exact ⟨source, generated, generated_texts_enclosed generated⟩

end BlockSketch
