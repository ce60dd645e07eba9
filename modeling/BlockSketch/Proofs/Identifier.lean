import BlockSketch.Proofs.Declared
import BlockSketch.Proofs.Lexeme

/-!
No word of a compiled sketch is undefined: the words that stand in the text of its setup
and its loop are words of the language and its libraries, counters that the head of their
loop declares, and names that the sketch refers to, all of which it declares on lines in
front of the setup.
-/
namespace BlockSketch.Sketch
open Scan

/-- The words that a sketch takes from the language and its libraries. -/
def library : List String :=
  ["void", "setup", "loop", "if", "else", "while", "for", "int", "true", "false", "break", "continue",
   "String", "fmod", "millis", "delay", "tone", "pinMode", "INPUT", "OUTPUT", "digitalRead", "analogRead",
   "Serial", "begin", "print", "println", "ON", "OFF", "GREEN", "ORANGE", "RED", "_setBrickLight",
   "_resetBrickLight", "_motorOn", "_motorStop", "_getUltrasonicDistance", "_getTemperature"]

/-- All words among the lexemes are of the library, or texts of these names. -/
def Known (names : List Name) (found : List Lexeme) : Prop :=
  ∀ word, .word word ∈ found → word ∈ library ∨ ∃ name ∈ names, name.text = word

namespace Known
variable {names : List Name} {found more : List Lexeme}

theorem nil : Known names [] := by
  intro word member
  cases member

theorem library {word : String} (listed : word ∈ library) (rest : Known names found) :
    Known names (.word word :: found) := by
  intro other member
  rcases List.mem_cons.mp member with same | member
  · cases same
    exact .inl listed
  · exact rest other member

theorem name {name : Name} (listed : name ∈ names) (rest : Known names found) :
    Known names (.word name.text :: found) := by
  intro other member
  rcases List.mem_cons.mp member with same | member
  · cases same
    exact .inr ⟨name, listed, rfl⟩
  · exact rest other member

theorem literal {value : String} (rest : Known names found) : Known names (.literal value :: found) := by
  intro other member
  rcases List.mem_cons.mp member with same | member
  · cases same
  · exact rest other member

theorem append (first : Known names found) (rest : Known names more) : Known names (found ++ more) := by
  intro word member
  rcases List.mem_append.mp member with member | member
  · exact first word member
  · exact rest word member

end Known

section
variable {names : List Name}

theorem Term.known (term : Term) (inside : term.names ⊆ names) : Known names term.lexemes := by
  induction term with
  | number literal => exact .nil
  | boolean value => exact .library (by cases value <;> decide) .nil
  | text value => exact .library (by decide) (.literal .nil)
  | name referent => exact .name (inside List.mem_cons_self) .nil
  | binary op left right knownLeft knownRight =>
    obtain ⟨insideLeft, insideRight⟩ := List.append_subset.mp inside
    have operands := (knownLeft insideLeft).append (knownRight insideRight)
    by_cases remainder : op = .mod
    · subst remainder
      exact operands.library (by decide)
    · rw [lexemes_binary remainder]
      exact operands
  | unary op operand ih => exact ih inside
  | pressed pin => exact .library (by decide) (.name (inside List.mem_cons_self) .nil)
  | distance trigger echo =>
    obtain ⟨first, rest⟩ := List.cons_subset.mp inside
    exact .library (by decide) (.name first (.name (rest List.mem_cons_self) .nil))
  | brightness pin => exact .library (by decide) (.name (inside List.mem_cons_self) .nil)
  | temperature pin => exact .library (by decide) (.name (inside List.mem_cons_self) .nil)
  | elapsed timer =>
    exact .library (by decide) (.library (by decide) (.name (inside List.mem_cons_self) .nil))

theorem Command.known (command : Command) (inside : command.names ⊆ names) :
    Known names command.lexemes := by
  cases command with
  | openSerial => exact .library (by decide) (.library (by decide) .nil)
  | startDisplay display => exact .name (inside List.mem_cons_self) (.library (by decide) .nil)
  | pinMode pin mode =>
    exact .library (by decide) (.name (inside List.mem_cons_self)
      (.library (by cases mode <;> decide) .nil))
  | setLight color blink =>
    exact .library (by decide) (.library (by cases color <;> decide)
      (.library (by cases blink <;> decide) .nil))
  | clearLight => exact .library (by decide) (.library (by decide) (.library (by decide) .nil))
  | resetLight => exact .library (by decide) .nil
  | tone pin frequency duration =>
    obtain ⟨pinInside, rest⟩ := List.cons_subset.mp inside
    obtain ⟨frequencyInside, durationInside⟩ := List.append_subset.mp rest
    have terms := (frequency.known frequencyInside).append (duration.known durationInside)
    exact .library (by decide) (.name pinInside terms)
  | drive forward backward power =>
    obtain ⟨forwardInside, rest⟩ := List.cons_subset.mp inside
    obtain ⟨backwardInside, powerInside⟩ := List.cons_subset.mp rest
    exact .library (by decide) (.name forwardInside (.name backwardInside (power.known powerInside)))
  | halt forward backward =>
    obtain ⟨forwardInside, rest⟩ := List.cons_subset.mp inside
    exact .library (by decide) (.name forwardInside (.name (rest List.mem_cons_self) .nil))
  | print display text =>
    obtain ⟨displayInside, textInside⟩ := List.cons_subset.mp inside
    exact .name displayInside (.library (by decide) (text.known textInside))
  | send value => exact .library (by decide) (.library (by decide) (value.known inside))
  | assign target value =>
    obtain ⟨targetInside, valueInside⟩ := List.cons_subset.mp inside
    exact .name targetInside (value.known valueInside)
  | leave way => cases way <;> exact .library (by decide) .nil
  | pause time => exact .library (by decide) (time.known inside)

end

/-! ## Counters -/

def Head.counters : Head → List Name
  | forever => []
  | counted counter _ => [counter]
  | during _ => []
  | till _ => []

mutual

/-- The counters that the heads of loops declare. -/
def Instruction.counters : Instruction → List Name
  | .command _ => []
  | .choice choice => choice.counters
  | .loop head body => head.counters ++ Instruction.blockCounters body

def Instruction.blockCounters : List Instruction → List Name
  | [] => []
  | instruction :: rest => instruction.counters ++ Instruction.blockCounters rest

def Choice.counters : Choice → List Name
  | .only _ body => Instruction.blockCounters body
  | .orElse _ body otherwise => Instruction.blockCounters body ++ Instruction.blockCounters otherwise
  | .orIf _ body rest => Instruction.blockCounters body ++ rest.counters

end

section
variable {names : List Name}

theorem Head.known (head : Head) (inside : head.names ⊆ names) (counted : head.counters ⊆ names) :
    Known names head.lexemes := by
  cases head with
  | forever => exact .library (by decide) (.library (by decide) .nil)
  | counted counter count =>
    have declared : counter ∈ names := counted List.mem_cons_self
    have bound : Known names (count.lexemes ++ [.word counter.text]) :=
      (count.known inside).append (.name declared .nil)
    show Known names ([.word "for", .word "int", .word counter.text, .word counter.text] ++
      count.lexemes ++ [.word counter.text])
    rw [List.append_assoc]
    exact .library (by decide) (.library (by decide) (.name declared (.name declared bound)))
  | during condition => exact .library (by decide) (condition.known inside)
  | till condition => exact .library (by decide) (condition.known inside)

mutual

theorem Instruction.known : ∀ instruction : Instruction, instruction.names ⊆ names →
    instruction.counters ⊆ names → Known names instruction.lexemes
  | .command command, inside, _ => by
    rw [Instruction.names] at inside
    rw [Instruction.lexemes]
    exact command.known inside
  | .choice choice, inside, counted => by
    rw [Instruction.names] at inside
    rw [Instruction.counters] at counted
    rw [Instruction.lexemes]
    exact choice.known inside counted
  | .loop head body, inside, counted => by
    rw [Instruction.names, List.append_subset] at inside
    rw [Instruction.counters, List.append_subset] at counted
    rw [Instruction.lexemes]
    exact (head.known inside.1 counted.1).append (Instruction.block_known body inside.2 counted.2)

theorem Instruction.block_known : ∀ body : List Instruction, Instruction.blockNames body ⊆ names →
    Instruction.blockCounters body ⊆ names → Known names (Instruction.blockLexemes body)
  | [], _, _ => by
    rw [Instruction.blockLexemes]
    exact .nil
  | instruction :: rest, inside, counted => by
    rw [Instruction.blockNames, List.append_subset] at inside
    rw [Instruction.blockCounters, List.append_subset] at counted
    rw [Instruction.blockLexemes]
    exact (instruction.known inside.1 counted.1).append (Instruction.block_known rest inside.2 counted.2)

theorem Choice.known : ∀ choice : Choice, choice.names ⊆ names → choice.counters ⊆ names →
    Known names choice.lexemes
  | .only condition body, inside, counted => by
    rw [Choice.names, List.append_subset] at inside
    rw [Choice.counters] at counted
    rw [Choice.lexemes]
    have arm := (condition.known inside.1).append (Instruction.block_known body inside.2 counted)
    exact .library (by decide) arm
  | .orElse condition body otherwise, inside, counted => by
    rw [Choice.names, List.append_subset, List.append_subset] at inside
    rw [Choice.counters, List.append_subset] at counted
    rw [Choice.lexemes]
    have arm := (condition.known inside.1.1).append (Instruction.block_known body inside.1.2 counted.1)
    have last := Instruction.block_known otherwise inside.2 counted.2
    exact .library (by decide) (arm.append (.library (by decide) last))
  | .orIf condition body rest, inside, counted => by
    rw [Choice.names, List.append_subset, List.append_subset] at inside
    rw [Choice.counters, List.append_subset] at counted
    rw [Choice.lexemes]
    have arm := (condition.known inside.1.1).append (Instruction.block_known body inside.1.2 counted.1)
    have others := rest.known inside.2 counted.2
    exact .library (by decide) (arm.append (.library (by decide) others))

end
end

/-! ## Whole sketches -/

/-- The text of the setup of a sketch. -/
def setupText (sketch : Sketch) : String :=
  "\n".intercalate (braced "void setup()" (sketch.setup.map Command.render))

/-- The text of the loop of a sketch. -/
def loopText (sketch : Sketch) : String :=
  "\n".intercalate (braced "void loop()" (Instruction.blockLines sketch.loop))

theorem Command.lines_read (commands : List Command) :
    LinesRead (commands.map Command.render) (commands.flatMap Command.lexemes) := by
  induction commands with
  | nil => exact .nil
  | cons command rest ih => exact ih.cons command.reads

theorem setupText_reads (sketch : Sketch) :
    Reads sketch.setupText ([.word "void", .word "setup"] ++ sketch.setup.flatMap Command.lexemes) := by
  have head : Reads "void setup()" [.word "void", .word "setup"] := fun _ => rfl
  exact ((Command.lines_read sketch.setup).braced head.opens).reads

theorem loopText_reads (sketch : Sketch) :
    Reads sketch.loopText ([.word "void", .word "loop"] ++ Instruction.blockLexemes sketch.loop) := by
  have head : Reads "void loop()" [.word "void", .word "loop"] := fun _ => rfl
  exact ((Instruction.blockLines_read sketch.loop).braced head.opens).reads

theorem Command.all_known {names : List Name} {commands : List Command}
    (inside : commands.flatMap Command.names ⊆ names) : Known names (commands.flatMap Command.lexemes) := by
  induction commands with
  | nil => exact .nil
  | cons command rest ih =>
    rw [List.flatMap_cons, List.append_subset] at inside
    exact (command.known inside.1).append (ih inside.2)

/-- The words of the setup and the loop are of the library, names that the sketch refers
    to, or counters of its loops. -/
theorem words_known (sketch : Sketch) :
    Known (sketch.references ++ Instruction.blockCounters sketch.loop)
      (Scan.lexemes sketch.setupText ++ Scan.lexemes sketch.loopText) := by
  rw [sketch.setupText_reads.lexemes_eq, sketch.loopText_reads.lexemes_eq]
  have setup : Known (sketch.references ++ Instruction.blockCounters sketch.loop)
      (sketch.setup.flatMap Command.lexemes) := by
    refine Command.all_known ?_
    exact List.Subset.trans (List.subset_append_left _ _) (List.subset_append_left _ _)
  have loop : Known (sketch.references ++ Instruction.blockCounters sketch.loop)
      (Instruction.blockLexemes sketch.loop) := by
    refine Instruction.block_known _ ?_ (List.subset_append_right _ _)
    exact List.Subset.trans (List.subset_append_right _ _) (List.subset_append_left _ _)
  exact (Known.library (by decide) (.library (by decide) setup)).append
    (.library (by decide) (.library (by decide) loop))

/-- The line stands in the text, between other lines. -/
def HasLine (text line : String) : Prop :=
  ∃ before after, text = before ++ "\n" ++ line ++ "\n" ++ after

/-- Each of the parts stands in the joined text with the separator on both sides. -/
theorem exists_of_mem_intercalate (separator : String) {part : String} {parts : List String}
    (member : part ∈ parts) :
    ∃ before after, separator ++ separator.intercalate parts ++ separator =
      before ++ separator ++ part ++ separator ++ after := by
  induction parts with
  | nil => cases member
  | cons first rest ih =>
    by_cases alone : rest = []
    · subst alone
      cases List.mem_singleton.mp member
      exact ⟨"", "", by simp⟩
    · rw [String.intercalate_cons_of_ne_nil alone]
      rcases List.mem_cons.mp member with rfl | later
      · exact ⟨"", separator.intercalate rest ++ separator, by simp [String.append_assoc]⟩
      · obtain ⟨before, after, inside⟩ := ih later
        refine ⟨separator ++ first ++ before, after, ?_⟩
        simp only [String.append_assoc] at inside ⊢
        rw [inside]

/-- The parts of a sketch between the banner and the setup. -/
def declaring (sketch : Sketch) : List (List String) :=
  includes sketch.usesDisplay ::
    [sketch.definitions.map Definition.render, sketch.globals.map Global.render].filter
      fun lines => !lines.isEmpty

/-- The text of a sketch in front of the setup. -/
def frontText (sketch : Sketch) : String :=
  banner ++ "\n\n" ++ "\n\n".intercalate (sketch.declaring.map fun lines => "\n".intercalate lines) ++ "\n\n"

theorem render_eq (sketch : Sketch) :
    sketch.render = sketch.frontText ++ sketch.setupText ++ "\n\n" ++ sketch.loopText ++ "\n" := by
  have parts : sketch.sections.map (fun lines => "\n".intercalate lines) =
      (banner :: sketch.declaring.map fun lines => "\n".intercalate lines) ++
        [sketch.setupText, sketch.loopText] := by
    simp [sections, declaring, setupText, loopText]
  rw [render, parts, String.intercalate_append_of_ne_nil (by simp) (by simp),
    String.intercalate_cons_of_ne_nil (by simp [declaring])]
  simp [frontText, String.append_assoc]

/-- Definitions and globals have their lines in front of the setup. -/
theorem hasLine_frontText (sketch : Sketch) {line : String}
    (member : line ∈ sketch.definitions.map Definition.render ++ sketch.globals.map Global.render) :
    HasLine sketch.frontText line := by
  obtain ⟨lines, part, inside⟩ : ∃ lines ∈ sketch.declaring, line ∈ lines := by
    rcases List.mem_append.mp member with inside | inside
    · refine ⟨_, List.mem_cons_of_mem _ (List.mem_filter.mpr ⟨List.mem_cons_self, ?_⟩), inside⟩
      simpa using List.ne_nil_of_mem inside
    · refine ⟨_, List.mem_cons_of_mem _ (List.mem_filter.mpr ⟨by simp, ?_⟩), inside⟩
      simpa using List.ne_nil_of_mem inside
  have joined : "\n".intercalate lines ∈ sketch.declaring.map fun lines => "\n".intercalate lines :=
    List.mem_map_of_mem part
  obtain ⟨before, after, ofPart⟩ := exists_of_mem_intercalate "\n\n" joined
  obtain ⟨earlier, later, ofLine⟩ := exists_of_mem_intercalate "\n" inside
  have twice : "\n\n" = "\n" ++ "\n" := rfl
  refine ⟨banner ++ before ++ "\n" ++ earlier, later ++ "\n" ++ after, ?_⟩
  calc sketch.frontText
      = banner ++ ("\n\n" ++ "\n\n".intercalate (sketch.declaring.map fun lines => "\n".intercalate lines) ++
          "\n\n") := by simp only [frontText, String.append_assoc]
    _ = banner ++ before ++ "\n" ++ ("\n" ++ "\n".intercalate lines ++ "\n") ++ "\n" ++ after := by
        rw [ofPart, twice]
        simp only [String.append_assoc]
    _ = banner ++ before ++ "\n" ++ earlier ++ "\n" ++ line ++ "\n" ++ (later ++ "\n" ++ after) := by
        rw [ofLine]
        simp only [String.append_assoc]

end BlockSketch.Sketch

namespace BlockSketch
variable {program : Program} {configuration : Configuration} {platform : Platform} {workflow : String}
  {before after : List Worker} {source : String}

theorem Project.Stores.checked (stores : Stores platform workflow program configuration before source)
    (validated : .configurationValidator ∈ before) : program.Checked configuration := by
  obtain ⟨project, used, reached, clean, _, _⟩ := stores
  exact (traced reached).checked clean validated

theorem Program.exists_sketch_of_generate {used : UsedHardware}
    (generated : program.generate configuration used = .ok source) :
    ∃ sketch, program.sketch configuration used = .ok sketch ∧ sketch.render = source := by
  unfold Program.generate at generated
  cases outcome : program.sketch configuration used with
  | error error =>
    rw [outcome] at generated
    cases generated
  | ok sketch =>
    rw [outcome] at generated
    exact ⟨sketch, rfl, Except.ok.inj generated⟩

theorem Project.Stores.exists_sketch
    (stores : Stores platform workflow program configuration before source) :
    ∃ sketch, program.sketch configuration (program.usedHardware none) = .ok sketch ∧
      sketch.render = source :=
  Program.exists_sketch_of_generate stores.generates

/-- No identifier in the sketch of a program is undefined. -/
structure Sketch.Complete (program : Program) (sketch : Sketch) : Prop where
  /-- What the setup and the loop refer to is declared. -/
  references : ∀ name ∈ sketch.references, sketch.Declares name
  /-- What the code of a block refers to is declared. -/
  blocks : ∀ occurrence ∈ program.occurrences, ∀ name ∈ occurrence.node.names, sketch.Declares name
  /-- There are no other words in the text of the setup and the loop than these names, the
      counters that loops declare, and the words of the library. -/
  words : ∀ word, .word word ∈ Scan.lexemes sketch.setupText ++ Scan.lexemes sketch.loopText →
    word ∈ library ∨ ∃ name ∈ sketch.references ++ Instruction.blockCounters sketch.loop, name.text = word
  /-- The serial line is opened if a block writes to it. -/
  serial : (∃ occurrence ∈ program.occurrences, occurrence.node.usesSerial = true) →
    "Serial.begin(9600);" ∈ sketch.setup.map Command.render
  /-- The declarations are lines of the text in front of the setup and the loop. -/
  text : ∃ front, sketch.render = front ++ sketch.setupText ++ "\n\n" ++ sketch.loopText ++ "\n" ∧
    ∀ line ∈ sketch.definitions.map Definition.render ++ sketch.globals.map Global.render, HasLine front line

theorem Program.Checked.complete (checked : program.Checked configuration) {sketch : Sketch}
    (made : program.sketch configuration (program.usedHardware none) = .ok sketch) :
    sketch.Complete program where
  references := checked.declares_references made
  blocks := fun _ member _ named => checked.declares_of_occurrence made member named
  words := sketch.words_known
  serial := by
    rintro ⟨occurrence, member, writes⟩
    exact List.mem_map_of_mem (openSerial_mem_setup made (serial_of_mem member writes))
  text := ⟨sketch.frontText, sketch.render_eq, fun _ => sketch.hasLine_frontText⟩

/-- The source that a generator stores after a configuration validator is the source of
    the report, and it is the text of a sketch in which no identifier is undefined. -/
theorem identifiers_declared
    (defined : platform.workflow workflow = .ok (before ++ .codeGenerator :: after))
    (stores : Project.Stores platform workflow program configuration before source)
    (validated : .configurationValidator ∈ before) :
    ∃ (compilation : Compilation) (sketch : Sketch),
      compile program configuration platform workflow = .ok compilation ∧
      compilation.report.source = some source ∧ sketch.render = source ∧ sketch.Complete program := by
  obtain ⟨compilation, compiled, present⟩ := compile_of_stores defined stores
  obtain ⟨sketch, made, rendered⟩ := stores.exists_sketch
  exact ⟨compilation, sketch, compiled, present, rendered, (stores.checked validated).complete made⟩

/-- The sketch with a display, a sensor, two timers and the serial line. -/
theorem sonar_identifiers_declared :
    ∃ (source : String) (compilation : Compilation) (sketch : Sketch),
      compile .sonar .sonar
          (.withWorkflow "twice" [.configurationValidator, .codeGenerator, .validator, .codeGenerator])
          "twice" = .ok compilation ∧
      compilation.report.source = some source ∧ sketch.render = source ∧ sketch.Complete .sonar := by
  obtain ⟨project, reached, clean⟩ : ∃ project,
      ({ program := .sonar, configuration := .sonar } : Project).after?
        (.withWorkflow "twice" [.configurationValidator, .codeGenerator, .validator, .codeGenerator])
        "twice" [.configurationValidator] = some project ∧ project.result = .success :=
    ⟨_, rfl, by rfl⟩
  have traced := Project.traced reached
  obtain ⟨used, source, hardware, made⟩ := traced.exists_source clean (by decide)
  rw [traced.program_eq, traced.configuration_eq] at made
  exact ⟨source, identifiers_declared rfl ⟨project, used, reached, clean, hardware, made⟩ (by decide)⟩

end BlockSketch
