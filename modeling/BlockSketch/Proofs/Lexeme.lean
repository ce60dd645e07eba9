import BlockSketch.Proofs.Reference
import BlockSketch.Proofs.Scanner

/-!
The lexemes of a sketch. Each part of a sketch has its lexemes, read off the tree; the
scanner finds exactly these in the text of the part.
-/
namespace BlockSketch

/-! ## Names -/

theorem isIdentifier_append {first second : String} (valid : isIdentifier first = true)
    (word : second.toList.all isWordChar = true) : isIdentifier (first ++ second) = true := by
  unfold isIdentifier at valid ⊢
  rw [String.toList_append]
  cases split : first.toList with
  | nil => simp [split] at valid
  | cons c rest =>
    rw [split, Bool.and_eq_true] at valid
    rw [List.cons_append, Bool.and_eq_true, List.all_append, Bool.and_eq_true]
    exact ⟨valid.1, valid.2, word⟩

theorem Identifier.all_isWordChar (name : Identifier) : name.text.toList.all isWordChar = true := by
  have valid := name.valid
  unfold isIdentifier at valid
  cases split : name.text.toList with
  | nil => rfl
  | cons c rest =>
    rw [split, Bool.and_eq_true] at valid
    rw [List.all_cons, Bool.and_eq_true]
    exact ⟨Scan.isWordChar_of_isLetter valid.1, valid.2⟩

namespace Sketch

theorem all_isWordChar_roleText (role : String) : (roleText role).toList.all isWordChar = true := by
  unfold roleText
  split
  · decide
  · rw [String.toList_ofList, List.all_map, List.all_eq_true]
    intro c _
    show isWordChar (if c.isAlphanum then c else '_') = true
    split
    · next alphanumeric => simp [isWordChar, alphanumeric]
    · decide

theorem all_isWordChar_toString (number : Nat) : (toString number).toList.all isWordChar = true := by
  show number.repr.toList.all isWordChar = true
  rw [Nat.toList_repr, List.all_eq_true]
  intro c member
  exact Scan.isWordChar_of_isDigit (Nat.isDigit_of_mem_toDigits (by decide) (by decide) member)

/-- The names of a sketch are words. -/
theorem Name.isIdentifier_text (name : Name) : isIdentifier name.text = true := by
  cases name with
  | pin component role =>
    have underscored : isIdentifier ("_" ++ component.text) = true :=
      isIdentifier_append (by decide) component.all_isWordChar
    exact isIdentifier_append (isIdentifier_append underscored (by decide)) (all_isWordChar_roleText role)
  | display component => exact isIdentifier_append (by decide) component.all_isWordChar
  | timer number => exact isIdentifier_append (by decide) (all_isWordChar_toString _)
  | var name => exact isIdentifier_append (by decide) name.all_isWordChar
  | counter index => exact isIdentifier_append (by decide) (all_isWordChar_toString index)

open Scan

theorem Name.opens (name : Name) : Opens name.text [.word name.text] :=
  opens_identifier name.isIdentifier_text

/-! ## Terms -/

def Term.lexemes : Term → List Lexeme
  | number _ => []
  | boolean value => [.word (boolText value)]
  | text value => [.word "String", .literal value]
  | name referent => [.word referent.text]
  | binary .mod left right => .word "fmod" :: (left.lexemes ++ right.lexemes)
  | binary _ left right => left.lexemes ++ right.lexemes
  | unary _ operand => operand.lexemes
  | pressed pin => [.word "digitalRead", .word pin.text]
  | distance trigger echo => [.word "_getUltrasonicDistance", .word trigger.text, .word echo.text]
  | brightness pin => [.word "analogRead", .word pin.text]
  | temperature pin => [.word "_getTemperature", .word pin.text]
  | elapsed timer => [.word "int", .word "millis", .word timer.text]

theorem Term.lexemes_mod (left right : Term) :
    (binary .mod left right).lexemes = .word "fmod" :: (left.lexemes ++ right.lexemes) := rfl

theorem Term.render_mod (left right : Term) :
    (binary .mod left right).render = "fmod(" ++ left.render ++ ", " ++ right.render ++ ")" := rfl

theorem Term.lexemes_binary {op : BinaryOp} (other : op ≠ .mod) (left right : Term) :
    (binary op left right).lexemes = left.lexemes ++ right.lexemes := by
  cases op with
  | mod => exact absurd rfl other
  | _ => rfl

theorem Term.render_binary {op : BinaryOp} (other : op ≠ .mod) (left right : Term) :
    (binary op left right).render =
      "(" ++ left.render ++ " " ++ op.symbol ++ " " ++ right.render ++ ")" := by
  cases op with
  | mod => exact absurd rfl other
  | _ => rfl

theorem opens_binarySymbol (op : BinaryOp) : Opens op.symbol [] := by
  intro rest ends
  cases op with
  | divide =>
    show scan .slash rest = scan .code rest
    cases rest with
    | nil => rfl
    | cons c others =>
      have stops := ends.resolve_left (List.cons_ne_nil _ _)
      simp only [startsWithEnd, isEnd, Bool.not_eq_true', Bool.or_eq_false_iff] at stops
      rw [scan, scan, stops.2]
      rfl
  | _ => rfl

theorem reads_unarySymbol (op : UnaryOp) : Reads op.symbol [] := by
  intro rest
  cases op <;> rfl

theorem reads_comma : Reads ", " [] := fun _ => rfl

theorem reads_close : Reads ")" [] := fun _ => rfl

theorem Term.opens (term : Term) : Opens term.render term.lexemes := by
  induction term with
  | number literal => exact opens_numeral literal
  | boolean value => exact opens_identifier (by cases value <;> decide)
  | text value => exact (reads_literal value).opens
  | name referent => exact referent.opens
  | binary op left right readLeft readRight =>
    by_cases remainder : op = .mod
    · subst remainder
      have call : Reads "fmod(" [.word "fmod"] := fun _ => rfl
      have opened := (call.appendOpens readLeft).close reads_comma rfl
      rw [render_mod, lexemes_mod]
      exact ((opened.appendOpens readRight).close reads_close rfl).opens
    · have bracket : Reads "(" [] := fun _ => rfl
      have blank : Reads " " [] := fun _ => rfl
      have opened := ((bracket.appendOpens readLeft).close blank rfl).appendOpens (opens_binarySymbol op)
      rw [render_binary remainder, lexemes_binary remainder]
      simpa using ((((opened.close blank rfl).appendOpens readRight).close reads_close rfl).opens)
  | unary op operand ih =>
    have bracket : Reads "(" [] := fun _ => rfl
    have opened := bracket.append (reads_unarySymbol op)
    show Opens ("(" ++ op.symbol ++ operand.render ++ ")") operand.lexemes
    simpa using ((opened.appendOpens ih).close reads_close rfl).opens
  | pressed pin =>
    have call : Reads "digitalRead(" [.word "digitalRead"] := fun _ => rfl
    exact ((call.appendOpens pin.opens).close reads_close rfl).opens
  | distance trigger echo =>
    have call : Reads "_getUltrasonicDistance(" [.word "_getUltrasonicDistance"] := fun _ => rfl
    have opened := (call.appendOpens trigger.opens).close reads_comma rfl
    exact ((opened.appendOpens echo.opens).close reads_close rfl).opens
  | brightness pin =>
    have call : Reads "(analogRead(" [.word "analogRead"] := fun _ => rfl
    have scale : Reads ") * 100 / 1023)" [] := fun _ => rfl
    exact ((call.appendOpens pin.opens).close scale rfl).opens
  | temperature pin =>
    have call : Reads "_getTemperature(" [.word "_getTemperature"] := fun _ => rfl
    exact ((call.appendOpens pin.opens).close reads_close rfl).opens
  | elapsed timer =>
    have call : Reads "((int) (millis() - " [.word "int", .word "millis"] := fun _ => rfl
    have close : Reads "))" [] := fun _ => rfl
    exact ((call.appendOpens timer.opens).close close rfl).opens

/-! ## Commands -/

def Command.lexemes : Command → List Lexeme
  | openSerial => [.word "Serial", .word "begin"]
  | startDisplay display => [.word display.text, .word "begin"]
  | pinMode pin mode => [.word "pinMode", .word pin.text, .word mode.text]
  | setLight color blink =>
    [.word "_setBrickLight", .word (Vocabulary.word color), .word (onOff blink)]
  | clearLight => [.word "_setBrickLight", .word "OFF", .word "OFF"]
  | resetLight => [.word "_resetBrickLight"]
  | tone pin frequency duration =>
    .word "tone" :: .word pin.text :: (frequency.lexemes ++ duration.lexemes)
  | drive forward backward power =>
    .word "_motorOn" :: .word forward.text :: .word backward.text :: power.lexemes
  | halt forward backward => [.word "_motorStop", .word forward.text, .word backward.text]
  | print display text => .word display.text :: .word "print" :: text.lexemes
  | send value => .word "Serial" :: .word "println" :: value.lexemes
  | assign target value => .word target.text :: value.lexemes
  | leave .break => [.word "break"]
  | leave .continue => [.word "continue"]
  | pause time => .word "delay" :: time.lexemes

theorem reads_end : Reads ");" [] := fun _ => rfl

theorem Command.reads (command : Command) : Reads command.render command.lexemes := by
  cases command with
  | openSerial => exact fun _ => rfl
  | startDisplay display =>
    have member : Reads ".begin(16, 2);" [.word "begin"] := fun _ => rfl
    exact reads_member display.isIdentifier_text member rfl
  | pinMode pin mode =>
    have call : Reads "pinMode(" [.word "pinMode"] := fun _ => rfl
    have modeWord : Opens mode.text [.word mode.text] := opens_identifier (by cases mode <;> decide)
    have opened := (call.appendOpens pin.opens).close reads_comma rfl
    exact (opened.appendOpens modeWord).close reads_end rfl
  | setLight color blink =>
    have call : Reads "_setBrickLight(" [.word "_setBrickLight"] := fun _ => rfl
    have colorWord : Opens (Vocabulary.word color) [.word (Vocabulary.word color)] :=
      opens_identifier (by cases color <;> decide)
    have blinkWord : Opens (onOff blink) [.word (onOff blink)] :=
      opens_identifier (by cases blink <;> decide)
    have opened := (call.appendOpens colorWord).close reads_comma rfl
    exact (opened.appendOpens blinkWord).close reads_end rfl
  | clearLight => exact fun _ => rfl
  | resetLight => exact fun _ => rfl
  | tone pin frequency duration =>
    have call : Reads "tone(" [.word "tone"] := fun _ => rfl
    have opened := (call.appendOpens pin.opens).close reads_comma rfl
    have second := (opened.appendOpens frequency.opens).close reads_comma rfl
    exact (second.appendOpens duration.opens).close reads_end rfl
  | drive forward backward power =>
    have call : Reads "_motorOn(" [.word "_motorOn"] := fun _ => rfl
    have opened := (call.appendOpens forward.opens).close reads_comma rfl
    have second := (opened.appendOpens backward.opens).close reads_comma rfl
    exact (second.appendOpens power.opens).close reads_end rfl
  | halt forward backward =>
    have call : Reads "_motorStop(" [.word "_motorStop"] := fun _ => rfl
    have opened := (call.appendOpens forward.opens).close reads_comma rfl
    exact (opened.appendOpens backward.opens).close reads_end rfl
  | print display text =>
    have member : Reads ".print(" [.word "print"] := fun _ => rfl
    have call := reads_member display.isIdentifier_text member rfl
    exact (call.appendOpens text.opens).close reads_end rfl
  | send value =>
    have call : Reads "Serial.println(" [.word "Serial", .word "println"] := fun _ => rfl
    exact (call.appendOpens value.opens).close reads_end rfl
  | assign target value =>
    have equals : Reads " = " [] := fun _ => rfl
    have semicolon : Reads ";" [] := fun _ => rfl
    have opened := target.opens.close equals rfl
    exact (opened.appendOpens value.opens).close semicolon rfl
  | leave way => cases way <;> exact fun _ => rfl
  | pause time =>
    have call : Reads "delay(" [.word "delay"] := fun _ => rfl
    exact (call.appendOpens time.opens).close reads_end rfl

/-! ## Blocks -/

def Head.lexemes : Head → List Lexeme
  | forever => [.word "while", .word "true"]
  | counted counter count =>
    [.word "for", .word "int", .word counter.text, .word counter.text] ++ count.lexemes ++
      [.word counter.text]
  | during condition => .word "while" :: condition.lexemes
  | till condition => .word "while" :: condition.lexemes

theorem Head.reads (head : Head) : Reads head.render head.lexemes := by
  cases head with
  | forever => exact fun _ => rfl
  | counted counter count =>
    have start : Reads "for (int " [.word "for", .word "int"] := fun _ => rfl
    have zero : Reads " = 0; " [] := fun _ => rfl
    have less : Reads " < " [] := fun _ => rfl
    have next : Reads "; " [] := fun _ => rfl
    have step : Reads " += 1)" [] := fun _ => rfl
    have declared := (start.appendOpens counter.opens).close zero rfl
    have compared := (declared.appendOpens counter.opens).close less rfl
    have bounded := (compared.appendOpens count.opens).close next rfl
    exact (bounded.appendOpens counter.opens).close step rfl
  | during condition =>
    have start : Reads "while (" [.word "while"] := fun _ => rfl
    exact (start.appendOpens condition.opens).close reads_close rfl
  | till condition =>
    have start : Reads "while (!(" [.word "while"] := fun _ => rfl
    have close : Reads "))" [] := fun _ => rfl
    exact (start.appendOpens condition.opens).close close rfl

mutual

def Instruction.lexemes : Instruction → List Lexeme
  | .command command => command.lexemes
  | .choice choice => choice.lexemes
  | .loop head body => head.lexemes ++ Instruction.blockLexemes body

def Instruction.blockLexemes : List Instruction → List Lexeme
  | [] => []
  | instruction :: rest => instruction.lexemes ++ Instruction.blockLexemes rest

def Choice.lexemes : Choice → List Lexeme
  | .only condition body => .word "if" :: (condition.lexemes ++ Instruction.blockLexemes body)
  | .orElse condition body otherwise =>
    .word "if" :: (condition.lexemes ++ Instruction.blockLexemes body ++
      .word "else" :: Instruction.blockLexemes otherwise)
  | .orIf condition body rest =>
    .word "if" :: (condition.lexemes ++ Instruction.blockLexemes body ++ .word "else" :: rest.lexemes)

end

/-- Each of the lines is scanned by itself, and together they give these lexemes. -/
structure LinesRead (lines : List String) (found : List Lexeme) : Prop where
  each : ∀ line ∈ lines, Reads line (Scan.lexemes line)
  all : lines.flatMap Scan.lexemes = found

namespace LinesRead
variable {line : String} {lines others : List String} {found more : List Lexeme}

theorem reads (read : LinesRead lines found) : Reads ("\n".intercalate lines) found :=
  read.all ▸ Reads.intercalate_lines read.each

theorem nil : LinesRead [] [] :=
  ⟨by simp, rfl⟩

theorem cons (reads : Reads line found) (read : LinesRead lines more) :
    LinesRead (line :: lines) (found ++ more) := by
  refine ⟨List.forall_mem_cons.mpr ⟨?_, read.each⟩, ?_⟩
  · rw [reads.lexemes_eq]
    exact reads
  · rw [List.flatMap_cons, reads.lexemes_eq, read.all]

theorem append (first : LinesRead lines found) (second : LinesRead others more) :
    LinesRead (lines ++ others) (found ++ more) := by
  refine ⟨List.forall_mem_append.mpr ⟨first.each, second.each⟩, ?_⟩
  rw [List.flatMap_append, first.all, second.all]

theorem indented (read : LinesRead lines found) : LinesRead (lines.map indent) found := by
  have blanks : Reads "    " [] := fun _ => rfl
  have same (line : String) : Scan.lexemes (indent line) = Scan.lexemes line := by
    unfold Scan.lexemes indent
    rw [String.toList_append]
    exact blanks line.toList
  refine ⟨List.forall_mem_map.mpr fun line member => ?_, ?_⟩
  · rw [same]
    exact blanks.append (read.each line member)
  · rw [List.flatMap_map]
    simpa only [same] using read.all

theorem braced {head : String} (opens : Opens head found) (read : LinesRead lines more) :
    LinesRead (braced head lines) (found ++ more) := by
  have opening : Reads " \x7b" [] := fun _ => rfl
  have closing : Reads "\x7d" [] := fun _ => rfl
  unfold Sketch.braced
  simpa using (read.indented.append (nil.cons closing)).cons (opens.close opening rfl)

end LinesRead

/-- The condition of a choice after what stands before it. -/
theorem reads_condition {before closing : String} {found : List Lexeme} (reads : Reads before found)
    (condition : Term) (close : Reads closing []) (ends : startsWithEnd closing.toList = true) :
    Reads (before ++ "if (" ++ condition.render ++ closing)
      (found ++ .word "if" :: condition.lexemes) := by
  have start : Reads "if (" [.word "if"] := fun _ => rfl
  simpa using ((reads.append start).appendOpens condition.opens).close close ends

mutual

theorem Instruction.lines_read : ∀ instruction : Instruction,
    LinesRead instruction.lines instruction.lexemes
  | .command command => by
    rw [Instruction.lines, Instruction.lexemes]
    simpa using LinesRead.nil.cons command.reads
  | .choice choice => by
    have nothing : Reads "" [] := fun _ => rfl
    rw [Instruction.lines, Instruction.lexemes]
    exact choice.lines_read nothing
  | .loop head body => by
    rw [Instruction.lines, Instruction.lexemes]
    exact (Instruction.blockLines_read body).braced head.reads.opens

/-- The lines of a block have the lexemes of its instructions. -/
theorem Instruction.blockLines_read : ∀ body : List Instruction,
    LinesRead (Instruction.blockLines body) (Instruction.blockLexemes body)
  | [] => by
    rw [Instruction.blockLines, Instruction.blockLexemes]
    exact .nil
  | instruction :: rest => by
    rw [Instruction.blockLines, Instruction.blockLexemes]
    exact instruction.lines_read.append (Instruction.blockLines_read rest)

theorem Choice.lines_read {before : String} {found : List Lexeme} (reads : Reads before found) :
    ∀ choice : Choice, LinesRead (choice.lines before) (found ++ choice.lexemes)
  | .only condition body => by
    rw [Choice.lines, Choice.lexemes]
    have conditional := reads_condition reads condition reads_close rfl
    simpa using (Instruction.blockLines_read body).braced conditional.opens
  | .orElse condition body otherwise => by
    have opening : Reads ") \x7b" [] := fun _ => rfl
    have word : Opens "else" [.word "else"] := opens_identifier (by decide)
    have alternative : Opens "\x7d else" [.word "else"] := fun rest ends => word rest ends
    have arm := (Instruction.blockLines_read body).indented
    have last := (Instruction.blockLines_read otherwise).braced alternative
    rw [Choice.lines, Choice.lexemes]
    simpa using (arm.append last).cons (reads_condition reads condition opening rfl)
  | .orIf condition body rest => by
    have opening : Reads ") \x7b" [] := fun _ => rfl
    have alternative : Reads "\x7d else " [.word "else"] := fun _ => rfl
    have arm := (Instruction.blockLines_read body).indented
    have others := rest.lines_read alternative
    rw [Choice.lines, Choice.lexemes]
    simpa using (arm.append others).cons (reads_condition reads condition opening rfl)

end

end Sketch
end BlockSketch
