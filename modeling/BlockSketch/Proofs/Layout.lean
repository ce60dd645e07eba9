import BlockSketch.Proofs.Lexeme
import BlockSketch.Proofs.Lines

/-!
The layout of code. Every line of code is solid, whatever the texts that it quotes: there is no
newline in a literal, and a line ends with a semicolon or a brace.

The text of code can therefore be put together from texts as well (`sequenceText`). The text of
a block is then split into lines again for each brace around it, and all the same the result is
the text of the lines (`sequenceText_of_sequenceCode`).
-/
namespace BlockSketch.Sketch

open Text (Unbroken Solid wrap)

/-! ## Lines of code are solid -/

theorem unbroken_of_all {isAllowed : Char → Bool} {text : String} (all : text.toList.all isAllowed = true)
    (excluded : isAllowed '\n' = false) : Unbroken text := by
  intro newline
  have allowed := List.all_eq_true.mp all _ newline
  rw [excluded] at allowed
  cases allowed

theorem Name.unbroken (name : Name) : Unbroken name.text :=
  unbroken_of_all (Identifier.all_isWordChar ⟨name.text, name.isIdentifier_text⟩) (by decide)

theorem unbroken_numeral (literal : Numeral) : Unbroken literal.text := by
  obtain ⟨spelling, spelled⟩ := literal.exists_spelling
  have all := spelling.all_isNumeralChar
  rw [spelled] at all
  exact unbroken_of_all all (by decide)

theorem newline_not_mem_literalChar (c : Char) : '\n' ∉ literalChar c := by
  unfold literalChar
  split
  · decide
  · split
    · decide
    · split
      · decide
      · next other => simpa using Ne.symm other

/-- A text may hold newlines, but its literal does not. -/
theorem unbroken_literal (value : String) : Unbroken (literal value) := by
  have content : Unbroken (String.ofList (value.toList.flatMap literalChar)) := by
    rw [Unbroken, String.toList_ofList, List.mem_flatMap]
    rintro ⟨c, _, newline⟩
    exact newline_not_mem_literalChar c newline
  have call : Unbroken "String(\"" := by decide
  exact (call.append content).append (by decide)

theorem Term.unbroken (term : Term) : Unbroken term.render := by
  have comma : Unbroken ", " := by decide
  have close : Unbroken ")" := by decide
  induction term with
  | number literal => exact unbroken_numeral literal
  | boolean value => cases value <;> decide
  | text value => exact unbroken_literal value
  | name referent => exact referent.unbroken
  | binary op left right first second =>
    by_cases remainder : op = .mod
    · subst remainder
      have call : Unbroken "fmod(" := by decide
      rw [render_mod]
      exact (((call.append first).append comma).append second).append close
    · have bracket : Unbroken "(" := by decide
      have blank : Unbroken " " := by decide
      have symbol : Unbroken op.symbol := by cases op <;> decide
      rw [render_binary remainder]
      exact (((((bracket.append first).append blank).append symbol).append blank).append second).append close
  | unary op operand only =>
    have bracket : Unbroken ("(" ++ op.symbol) := by cases op <;> decide
    exact (bracket.append only).append close
  | pressed pin =>
    have call : Unbroken "digitalRead(" := by decide
    exact (call.append pin.unbroken).append close
  | distance trigger echo =>
    have call : Unbroken "_getUltrasonicDistance(" := by decide
    exact (((call.append trigger.unbroken).append comma).append echo.unbroken).append close
  | brightness pin =>
    have call : Unbroken "(analogRead(" := by decide
    exact (call.append pin.unbroken).append (by decide)
  | temperature pin =>
    have call : Unbroken "_getTemperature(" := by decide
    exact (call.append pin.unbroken).append close
  | elapsed timer =>
    have call : Unbroken "((int) (millis() - " := by decide
    exact (call.append timer.unbroken).append (by decide)

theorem Head.unbroken (head : Head) : Unbroken head.render := by
  have close : Unbroken ")" := by decide
  cases head with
  | forever => decide
  | counted counter count =>
    have start : Unbroken "for (int " := by decide
    have zero : Unbroken " = 0; " := by decide
    have less : Unbroken " < " := by decide
    have next : Unbroken "; " := by decide
    have declared := (start.append counter.unbroken).append zero
    have bounded := (((declared.append counter.unbroken).append less).append count.unbroken).append next
    exact (bounded.append counter.unbroken).append (by decide)
  | during condition =>
    have start : Unbroken "while (" := by decide
    exact (start.append condition.unbroken).append close
  | till condition =>
    have start : Unbroken "while (!(" := by decide
    exact (start.append condition.unbroken).append (by decide)

/-- Whatever texts a command quotes, it takes one line, and ends with a semicolon. -/
theorem Command.solid (command : Command) : Solid command.render := by
  have comma : Unbroken ", " := by decide
  have close : Solid ");" := by decide
  cases command with
  | openSerial => decide
  | startDisplay display => exact .append display.unbroken (by decide)
  | pinMode pin mode =>
    have call : Unbroken "pinMode(" := by decide
    have word : Unbroken mode.text := by cases mode <;> decide
    exact .append (((call.append pin.unbroken).append comma).append word) close
  | setLight color blink =>
    have call : Unbroken "_setBrickLight(" := by decide
    have colorWord : Unbroken (Vocabulary.word color) := by cases color <;> decide
    have blinkWord : Unbroken (onOff blink) := by cases blink <;> decide
    exact .append (((call.append colorWord).append comma).append blinkWord) close
  | clearLight => decide
  | resetLight => decide
  | tone pin frequency duration =>
    have call : Unbroken "tone(" := by decide
    have opened := ((call.append pin.unbroken).append comma).append frequency.unbroken
    exact .append ((opened.append comma).append duration.unbroken) close
  | drive forward backward power =>
    have call : Unbroken "_motorOn(" := by decide
    have opened := ((call.append forward.unbroken).append comma).append backward.unbroken
    exact .append ((opened.append comma).append power.unbroken) close
  | halt forward backward =>
    have call : Unbroken "_motorStop(" := by decide
    exact .append (((call.append forward.unbroken).append comma).append backward.unbroken) close
  | print display text =>
    have member : Unbroken ".print(" := by decide
    exact .append ((display.unbroken.append member).append text.unbroken) close
  | send value =>
    have call : Unbroken "Serial.println(" := by decide
    exact .append (call.append value.unbroken) close
  | assign target value =>
    have equals : Unbroken " = " := by decide
    exact .append ((target.unbroken.append equals).append value.unbroken) (by decide)
  | leave way => cases way <;> decide
  | pause time =>
    have call : Unbroken "delay(" := by decide
    exact .append (call.append time.unbroken) close

/-- What stands before the block of an arm. -/
def armHead (before : String) (condition : Term) : String :=
  before ++ "if (" ++ condition.render ++ ")"

theorem armHead_opening (before : String) (condition : Term) :
    before ++ "if (" ++ condition.render ++ ") \x7b" = armHead before condition ++ " \x7b" := by
  simp [armHead, String.append_assoc]

theorem unbroken_armHead {before : String} (unbroken : Unbroken before) (condition : Term) :
    Unbroken (armHead before condition) := by
  have start : Unbroken "if (" := by decide
  exact ((unbroken.append start).append condition.unbroken).append (by decide)

theorem braced_else (lines : List String) :
    braced "\x7d else" lines = ("\x7d" ++ (" else" ++ " \x7b")) :: (lines.map indent ++ ["\x7d"]) := rfl

namespace Choice
variable (before : String) (condition : Term) (body otherwise : List Instruction) (rest : Choice)

theorem lines_only : (only condition body).lines before =
    braced (armHead before condition) (Instruction.blockLines body) := rfl

theorem lines_orElse : (orElse condition body otherwise).lines before =
    (armHead before condition ++ " \x7b") :: ((Instruction.blockLines body).map indent ++
      braced "\x7d else" (Instruction.blockLines otherwise)) := by
  rw [← armHead_opening]
  rfl

theorem lines_orIf : (orIf condition body rest).lines before =
    (armHead before condition ++ " \x7b") :: ((Instruction.blockLines body).map indent ++
      rest.lines "\x7d else ") := by
  rw [← armHead_opening]
  rfl

/-- Only the first line depends on what stands before the choice. -/
theorem exists_lines (choice : Choice) : ∃ condition more, ∀ before,
    choice.lines before = (armHead before condition ++ " \x7b") :: more := by
  cases choice with
  | only condition body => exact ⟨condition, _, fun before => lines_only before condition body⟩
  | orElse condition body otherwise =>
    exact ⟨condition, _, fun before => lines_orElse before condition body otherwise⟩
  | orIf condition body rest => exact ⟨condition, _, fun before => lines_orIf before condition body rest⟩

/-- Later arms stand on the line of the brace that closes the arm before. -/
theorem exists_lines_else (choice : Choice) :
    ∃ line more, choice.lines " else " = line :: more ∧ choice.lines "\x7d else " = ("\x7d" ++ line) :: more := by
  obtain ⟨condition, more, begins⟩ := choice.exists_lines
  refine ⟨armHead " else " condition ++ " \x7b", more, begins _, ?_⟩
  rw [begins]
  simp [armHead, ← String.append_assoc]

end Choice

mutual

theorem Instruction.lines_solid : ∀ instruction : Instruction, ∀ line ∈ instruction.lines, Solid line
  | .command command => List.forall_mem_singleton.mpr command.solid
  | .choice choice => choice.lines_solid (by decide)
  | .loop head body => Text.solid_braced head.unbroken (Instruction.blockLines_solid body)

/-- The lines of a block are solid, at every depth. -/
theorem Instruction.blockLines_solid : ∀ code : List Instruction,
    ∀ line ∈ Instruction.blockLines code, Solid line
  | [] => List.forall_mem_nil _
  | instruction :: rest =>
    List.forall_mem_append.mpr ⟨instruction.lines_solid, Instruction.blockLines_solid rest⟩

theorem Choice.lines_solid {before : String} (unbroken : Unbroken before) : ∀ choice : Choice,
    ∀ line ∈ choice.lines before, Solid line
  | .only condition body => by
    rw [Choice.lines_only]
    exact Text.solid_braced (unbroken_armHead unbroken condition) (Instruction.blockLines_solid body)
  | .orElse condition body otherwise => by
    rw [Choice.lines_orElse]
    refine List.forall_mem_cons.mpr ⟨Text.solid_opening (unbroken_armHead unbroken condition), ?_⟩
    exact List.forall_mem_append.mpr ⟨Text.solid_indented (Instruction.blockLines_solid body),
      Text.solid_braced (by decide) (Instruction.blockLines_solid otherwise)⟩
  | .orIf condition body rest => by
    rw [Choice.lines_orIf]
    refine List.forall_mem_cons.mpr ⟨Text.solid_opening (unbroken_armHead unbroken condition), ?_⟩
    exact List.forall_mem_append.mpr ⟨Text.solid_indented (Instruction.blockLines_solid body),
      rest.lines_solid (by decide)⟩

end

/-- The text of a block: its lines, each below the one before. -/
def Instruction.blockText (code : List Instruction) : String :=
  "\n".intercalate (Instruction.blockLines code)

theorem Instruction.lines_ne_nil (instruction : Instruction) : instruction.lines ≠ [] := by
  cases instruction with
  | command command => exact List.cons_ne_nil _ _
  | choice choice =>
    obtain ⟨condition, more, begins⟩ := choice.exists_lines
    rw [Instruction.lines, begins]
    exact List.cons_ne_nil _ _
  | loop head body => exact List.cons_ne_nil _ _

theorem Instruction.blockText_eq_empty_iff {code : List Instruction} : blockText code = "" ↔ code = [] := by
  rw [blockText, Text.intercalate_eq_empty_iff (blockLines_solid code)]
  cases code with
  | nil => simp [blockLines]
  | cons instruction rest => simp [blockLines, instruction.lines_ne_nil]

theorem Instruction.blockLines_singleton (instruction : Instruction) :
    blockLines [instruction] = instruction.lines := by
  rw [blockLines, blockLines, List.append_nil]

theorem Instruction.blockText_singleton (instruction : Instruction) :
    blockText [instruction] = "\n".intercalate instruction.lines := by
  rw [blockText, blockLines_singleton]

theorem Instruction.blockLines_append (first rest : List Instruction) :
    blockLines (first ++ rest) = blockLines first ++ blockLines rest := by
  induction first with
  | nil => rfl
  | cons instruction first ih => rw [List.cons_append, blockLines, ih, blockLines, List.append_assoc]

/-! ## Text by text -/

mutual

/-- The text of a statement, put together from the texts of the lists in it. -/
def stmtText (configuration : Configuration) (index : Nat) : Stmt → Except SketchError String
  | .block body => sequenceText configuration index body
  | .branch _ branches => branchText configuration index "" branches
  | .loop _ head body => do
    let loop ← loopHead configuration index head
    let text ← sequenceText configuration (index + headLoops head) body
    return wrap loop.render text
  -- All other statements are commands.
  | stmt => do
    let code ← stmtCode configuration index stmt
    return Instruction.blockText code

/-- The text of a list: the texts of its statements one below the other, but for those that are
    empty. -/
def sequenceText (configuration : Configuration) (index : Nat) : Sequence → Except SketchError String
  | .mk _ statements => do
    let texts ← listTexts configuration index statements
    return Text.stack texts

def listTexts (configuration : Configuration) (index : Nat) : List Stmt → Except SketchError (List String)
  | [] => .ok []
  | stmt :: rest => do
    let first ← stmtText configuration index stmt
    let others ← listTexts configuration (index + stmtLoops stmt) rest
    return first :: others

def branchText (configuration : Configuration) (index : Nat) (before : String) :
    Branches → Except SketchError String
  | .only condition body => do
    let condition ← exprTerm configuration condition
    let text ← sequenceText configuration index body
    return wrap (armHead before condition) text
  | .orElse condition body otherwise => do
    let condition ← exprTerm configuration condition
    let first ← sequenceText configuration index body
    let second ← sequenceText configuration (index + sequenceLoops body) otherwise
    return wrap (armHead before condition) first ++ wrap " else" second
  | .orIf condition body rest => do
    let condition ← exprTerm configuration condition
    let first ← sequenceText configuration index body
    let others ← branchText configuration (index + sequenceLoops body) " else " rest
    return wrap (armHead before condition) first ++ others

end

variable {configuration : Configuration}

theorem wrap_blockText (head : String) (code : List Instruction) :
    wrap head (Instruction.blockText code) = "\n".intercalate (braced head (Instruction.blockLines code)) :=
  Text.wrap_intercalate (Instruction.blockLines_solid code) head

/-- A block goes on after its closing brace. -/
theorem wrap_append (head line : String) (code : List Instruction) (more : List String) :
    wrap head (Instruction.blockText code) ++ "\n".intercalate (line :: more) =
      "\n".intercalate ((head ++ " \x7b") ::
        ((Instruction.blockLines code).map indent ++ ("\x7d" ++ line) :: more)) := by
  rw [wrap_blockText, braced, ← List.cons_append, Text.intercalate_append_intercalate, List.cons_append]

namespace Choice
variable (before : String) (condition : Term) (body otherwise : List Instruction) (rest : Choice)

theorem text_only : "\n".intercalate ((only condition body).lines before) =
    wrap (armHead before condition) (Instruction.blockText body) := by
  rw [lines_only, wrap_blockText]

theorem text_orElse : "\n".intercalate ((orElse condition body otherwise).lines before) =
    wrap (armHead before condition) (Instruction.blockText body) ++ wrap " else" (Instruction.blockText otherwise) := by
  rw [lines_orElse, braced_else, wrap_blockText " else", braced, wrap_append]

theorem text_orIf : "\n".intercalate ((orIf condition body rest).lines before) =
    wrap (armHead before condition) (Instruction.blockText body) ++ "\n".intercalate (rest.lines " else ") := by
  obtain ⟨line, more, begins, goesOn⟩ := rest.exists_lines_else
  rw [lines_orIf, begins, goesOn, wrap_append]

end Choice

mutual

theorem stmtText_of_stmtCode : ∀ (stmt : Stmt) {index : Nat} {code : List Instruction},
    stmtCode configuration index stmt = .ok code →
      stmtText configuration index stmt = .ok (Instruction.blockText code)
  | .block body, _, _, made => sequenceText_of_sequenceCode body made
  | .branch _ branches, _, _, made => by
    obtain ⟨choice, choiceMade, made⟩ := Outcome.bind_eq_ok_iff.mp made
    cases made
    rw [stmtText, branchText_of_branchCode branches choiceMade, Instruction.blockText_singleton, Instruction.lines]
  | .loop _ head body, _, _, made => by
    obtain ⟨loop, loopMade, made⟩ := Outcome.bind_eq_ok_iff.mp made
    obtain ⟨code, codeMade, made⟩ := Outcome.bind_eq_ok_iff.mp made
    cases made
    rw [stmtText, loopMade, sequenceText_of_sequenceCode body codeMade, Instruction.blockText_singleton,
      Instruction.lines, ← wrap_blockText]
    rfl
  | .light .., _, _, made | .lightStatus .., _, _, made | .tone .., _, _, made | .motorOn .., _, _, made
  | .motorStop .., _, _, made | .showText .., _, _, made | .serialWrite .., _, _, made | .assign .., _, _, made
  | .flow .., _, _, made | .wait .., _, _, made => Outcome.bind_eq_ok_iff.mpr ⟨_, made, rfl⟩

/-- Putting texts together gives the text of the lines that are put together. -/
theorem sequenceText_of_sequenceCode : ∀ (list : Sequence) {index : Nat} {code : List Instruction},
    sequenceCode configuration index list = .ok code →
      sequenceText configuration index list = .ok (Instruction.blockText code)
  | .mk _ statements, _, _, made => by
    obtain ⟨texts, textsMade, stacked⟩ := listTexts_of_listCode statements made
    rw [sequenceText, textsMade, ← stacked]
    rfl

theorem listTexts_of_listCode : ∀ (statements : List Stmt) {index : Nat} {code : List Instruction},
    listCode configuration index statements = .ok code →
      ∃ texts, listTexts configuration index statements = .ok texts ∧
        Text.stack texts = Instruction.blockText code
  | [], _, _, made => by
    cases made
    exact ⟨[], rfl, rfl⟩
  | stmt :: rest, _, _, made => by
    obtain ⟨first, firstMade, made⟩ := Outcome.bind_eq_ok_iff.mp made
    obtain ⟨others, othersMade, made⟩ := Outcome.bind_eq_ok_iff.mp made
    cases made
    obtain ⟨texts, textsMade, stacked⟩ := listTexts_of_listCode rest othersMade
    refine ⟨Instruction.blockText first :: texts, ?_, ?_⟩
    · rw [listTexts, stmtText_of_stmtCode stmt firstMade, textsMade]
      rfl
    · rw [Instruction.blockText, Instruction.blockText, Instruction.blockLines_append]
      exact Text.stack_cons (Instruction.blockLines_solid first) (Instruction.blockLines_solid others) stacked

theorem branchText_of_branchCode : ∀ (branches : Branches) {index : Nat} {choice : Choice} {before : String},
    branchCode configuration index branches = .ok choice →
      branchText configuration index before branches = .ok ("\n".intercalate (choice.lines before))
  | .only _ body, _, _, _, made => by
    obtain ⟨condition, conditionMade, made⟩ := Outcome.bind_eq_ok_iff.mp made
    obtain ⟨code, codeMade, made⟩ := Outcome.bind_eq_ok_iff.mp made
    cases made
    rw [branchText, conditionMade, sequenceText_of_sequenceCode body codeMade, Choice.text_only]
    rfl
  | .orElse _ body otherwise, _, _, _, made => by
    obtain ⟨condition, conditionMade, made⟩ := Outcome.bind_eq_ok_iff.mp made
    obtain ⟨first, firstMade, made⟩ := Outcome.bind_eq_ok_iff.mp made
    obtain ⟨second, secondMade, made⟩ := Outcome.bind_eq_ok_iff.mp made
    cases made
    rw [branchText, conditionMade, sequenceText_of_sequenceCode body firstMade,
      sequenceText_of_sequenceCode otherwise secondMade, Choice.text_orElse]
    rfl
  | .orIf _ body rest, _, _, _, made => by
    obtain ⟨condition, conditionMade, made⟩ := Outcome.bind_eq_ok_iff.mp made
    obtain ⟨first, firstMade, made⟩ := Outcome.bind_eq_ok_iff.mp made
    obtain ⟨others, othersMade, made⟩ := Outcome.bind_eq_ok_iff.mp made
    cases made
    rw [branchText, conditionMade, sequenceText_of_sequenceCode body firstMade,
      branchText_of_branchCode rest othersMade, Choice.text_orIf]
    rfl

end

end BlockSketch.Sketch
