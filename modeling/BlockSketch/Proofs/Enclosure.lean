import BlockSketch.Proofs.Identifier
import BlockSketch.Proofs.Quotation

/-!
The text of a sketch is enclosed: whatever texts a program quotes, a scanner of the sketch
comes out of every literal where it ends, and finds plain code with balanced brackets
around them. The pieces are put together as the text is, terms in commands, commands in
blocks, and blocks in braces at every depth.
-/
namespace BlockSketch

open Quotation

/-! ## The literals among lexemes -/

namespace Scan

/-- The values of the literals. -/
def literals (found : List Lexeme) : List String :=
  found.filterMap fun
    | .word _ => none
    | .literal value => some value

@[simp] theorem literals_nil : literals [] = [] := rfl

@[simp] theorem literals_word (text : String) (rest : List Lexeme) :
    literals (.word text :: rest) = literals rest := rfl

@[simp] theorem literals_literal (value : String) (rest : List Lexeme) :
    literals (.literal value :: rest) = value :: literals rest := rfl

@[simp] theorem literals_append (first rest : List Lexeme) :
    literals (first ++ rest) = literals first ++ literals rest :=
  List.filterMap_append

end Scan

open Scan (literals literals_word literals_append)

/-- Punctuation behind a piece adds no literal. -/
theorem Quotation.Enclosed.close {before between after : List Char} {first second : String}
    {values : List String} (enclosed : Enclosed before between first values)
    (next : Enclosed between after second []) : Enclosed before after (first ++ second) values := by
  simpa using enclosed.append next

namespace Sketch

/-! ## Terms and commands -/

theorem enclosed_comma : Enclosed [')'] [')'] ", " [] := by decide

theorem enclosed_close : Enclosed [')'] [] ")" [] := by decide

theorem enclosed_end : Enclosed [')'] [] ");" [] := by decide

theorem Term.enclosed (term : Term) : Enclosed [] [] term.render (literals term.lexemes) := by
  induction term with
  | number literal => exact enclosed_numeral literal
  | boolean value => exact enclosed_word (by cases value <;> decide)
  | text value => exact enclosed_literal value
  | name referent => exact enclosed_name referent
  | binary op left right first second =>
    by_cases remainder : op = .mod
    · subst remainder
      have call : Enclosed [] [')'] "fmod(" [] := by decide
      rw [render_mod, lexemes_mod, literals_word, literals_append]
      exact (((call.append (first.inside _)).close enclosed_comma).append (second.inside _)).close enclosed_close
    · have bracket : Enclosed [] [')'] "(" [] := by decide
      have symbol : Enclosed [')'] [')'] (" " ++ op.symbol ++ " ") [] := by cases op <;> decide
      -- A slash opens a comment only before another one, so the blanks belong to the symbol.
      have grouped : (binary op left right).render =
          "(" ++ left.render ++ (" " ++ op.symbol ++ " ") ++ right.render ++ ")" := by
        rw [render_binary remainder]
        simp only [String.append_assoc]
      rw [grouped, lexemes_binary remainder, literals_append]
      exact (((bracket.append (first.inside _)).close symbol).append (second.inside _)).close enclosed_close
  | unary op operand only =>
    have bracket : Enclosed [] [')'] ("(" ++ op.symbol) [] := by cases op <;> decide
    exact (bracket.append (only.inside _)).close enclosed_close
  | pressed pin =>
    have call : Enclosed [] [')'] "digitalRead(" [] := by decide
    exact (call.append ((enclosed_name pin).inside _)).close enclosed_close
  | distance trigger echo =>
    have call : Enclosed [] [')'] "_getUltrasonicDistance(" [] := by decide
    exact (((call.append ((enclosed_name trigger).inside _)).close enclosed_comma).append
      ((enclosed_name echo).inside _)).close enclosed_close
  | brightness pin =>
    have call : Enclosed [] [')', ')'] "(analogRead(" [] := by decide
    have scale : Enclosed [')', ')'] [] ") * 100 / 1023)" [] := by decide
    exact (call.append ((enclosed_name pin).inside _)).close scale
  | temperature pin =>
    have call : Enclosed [] [')'] "_getTemperature(" [] := by decide
    exact (call.append ((enclosed_name pin).inside _)).close enclosed_close
  | elapsed timer =>
    have call : Enclosed [] [')', ')'] "((int) (millis() - " [] := by decide
    have close : Enclosed [')', ')'] [] "))" [] := by decide
    exact (call.append ((enclosed_name timer).inside _)).close close

theorem Command.enclosed (command : Command) : Enclosed [] [] command.render (literals command.lexemes) := by
  cases command with
  | openSerial => decide
  | startDisplay display =>
    have member : Enclosed [] [] ".begin(16, 2);" [] := by decide
    exact (enclosed_name display).append member
  | pinMode pin mode =>
    have call : Enclosed [] [')'] "pinMode(" [] := by decide
    have modeWord : Enclosed [] [] mode.text [] := by cases mode <;> decide
    exact (((call.append ((enclosed_name pin).inside _)).close enclosed_comma).append
      (modeWord.inside _)).close enclosed_end
  | setLight color blink =>
    have call : Enclosed [] [')'] "_setBrickLight(" [] := by decide
    have colorWord : Enclosed [] [] (Vocabulary.word color) [] := by cases color <;> decide
    have blinkWord : Enclosed [] [] (onOff blink) [] := by cases blink <;> decide
    exact (((call.append (colorWord.inside _)).close enclosed_comma).append
      (blinkWord.inside _)).close enclosed_end
  | clearLight => decide
  | resetLight => decide
  | tone pin frequency duration =>
    have call : Enclosed [] [')'] "tone(" [] := by decide
    have opened := (call.append ((enclosed_name pin).inside _)).close enclosed_comma
    have second := (opened.append (frequency.enclosed.inside _)).close enclosed_comma
    rw [Command.lexemes, literals_word, literals_word, literals_append]
    exact (second.append (duration.enclosed.inside _)).close enclosed_end
  | drive forward backward power =>
    have call : Enclosed [] [')'] "_motorOn(" [] := by decide
    have opened := (call.append ((enclosed_name forward).inside _)).close enclosed_comma
    have second := (opened.append ((enclosed_name backward).inside _)).close enclosed_comma
    exact (second.append (power.enclosed.inside _)).close enclosed_end
  | halt forward backward =>
    have call : Enclosed [] [')'] "_motorStop(" [] := by decide
    have opened := (call.append ((enclosed_name forward).inside _)).close enclosed_comma
    exact (opened.append ((enclosed_name backward).inside _)).close enclosed_end
  | print display text =>
    have member : Enclosed [] [')'] ".print(" [] := by decide
    exact (((enclosed_name display).append member).append (text.enclosed.inside _)).close enclosed_end
  | send value =>
    have call : Enclosed [] [')'] "Serial.println(" [] := by decide
    exact (call.append (value.enclosed.inside _)).close enclosed_end
  | assign target value =>
    have equals : Enclosed [] [] " = " [] := by decide
    have semicolon : Enclosed [] [] ";" [] := by decide
    exact (((enclosed_name target).append equals).append value.enclosed).close semicolon
  | leave way => cases way <;> decide
  | pause time =>
    have call : Enclosed [] [')'] "delay(" [] := by decide
    exact (call.append (time.enclosed.inside _)).close enclosed_end

theorem Head.enclosed (head : Head) : Enclosed [] [] head.render (literals head.lexemes) := by
  cases head with
  | forever => decide
  | counted counter count =>
    have start : Enclosed [] [')'] "for (int " [] := by decide
    have zero : Enclosed [')'] [')'] " = 0; " [] := by decide
    have less : Enclosed [')'] [')'] " < " [] := by decide
    have next : Enclosed [')'] [')'] "; " [] := by decide
    have step : Enclosed [')'] [] " += 1)" [] := by decide
    have declared := (start.append ((enclosed_name counter).inside _)).close zero
    have compared := (declared.append ((enclosed_name counter).inside _)).close less
    have bounded := (compared.append (count.enclosed.inside _)).close next
    have only : literals (counted counter count).lexemes = literals count.lexemes := by simp [Head.lexemes]
    rw [only]
    exact (bounded.close ((enclosed_name counter).inside _)).close step
  | during condition =>
    have start : Enclosed [] [')'] "while (" [] := by decide
    exact (start.append (condition.enclosed.inside _)).close enclosed_close
  | till condition =>
    have start : Enclosed [] [')', ')'] "while (!(" [] := by decide
    have close : Enclosed [')', ')'] [] "))" [] := by decide
    exact (start.append (condition.enclosed.inside _)).close close

/-! ## Lines -/

/-- Lines of which each is enclosed, from the nesting that the one before leaves. -/
inductive Nested : List Char → List Char → List String → List String → Prop
  | nil {open_ : List Char} : Nested open_ open_ [] []
  | cons {before between after : List Char} {line : String} {lines values others : List String}
    (first : Enclosed before between line values) (rest : Nested between after lines others) :
    Nested before after (line :: lines) (values ++ others)

namespace Nested
variable {before between after : List Char} {line : String} {lines more values others : List String}

theorem append (first : Nested before between lines values) (second : Nested between after more others) :
    Nested before after (lines ++ more) (values ++ others) := by
  induction first with
  | nil => exact second
  | cons line _ ih =>
    rw [List.append_assoc]
    exact .cons line (ih second)

theorem one (enclosed : Enclosed before after line values) : Nested before after [line] values := by
  have alone := Nested.cons enclosed .nil
  rwa [List.append_nil] at alone

theorem inside (nested : Nested before after lines values) (outer : List Char) :
    Nested (before ++ outer) (after ++ outer) lines values := by
  induction nested with
  | nil => exact .nil
  | cons line _ ih => exact .cons (line.frame outer) ih

theorem indented (nested : Nested before after lines values) :
    Nested before after (lines.map indent) values := by
  have blanks : Enclosed [] [] "    " [] := by decide
  induction nested with
  | nil => exact .nil
  | cons line _ ih => exact .cons ((blanks.inside _).append line) ih

/-- The lines of a block, and the brace that closes it. -/
theorem body (nested : Nested [] [] lines values) : Nested ['\x7d'] [] (lines.map indent ++ ["\x7d"]) values := by
  have brace : Enclosed ['\x7d'] [] "\x7d" [] := by decide
  have whole := (nested.indented.inside ['\x7d']).append (.one brace)
  rwa [List.append_nil] at whole

theorem braced {head : String} (opened : Enclosed before [] head values) (nested : Nested [] [] lines others) :
    Nested before [] (Sketch.braced head lines) (values ++ others) := by
  have brace : Enclosed [] ['\x7d'] " \x7b" [] := by decide
  exact .cons (opened.close brace) nested.body

/-- Lines make one text. -/
theorem intercalate (nested : Nested before after lines values) :
    Enclosed before after ("\n".intercalate lines) values := by
  have newline : Enclosed [] [] "\n" [] := by decide
  induction nested with
  | nil =>
    have empty : Enclosed [] [] "" [] := by decide
    exact empty.inside _
  | @cons before between after line lines values others first rest ih =>
    cases lines with
    | nil =>
      cases rest
      rw [List.append_nil]
      exact first
    | cons next lines =>
      rw [String.intercalate_cons_cons]
      exact (first.close (newline.inside _)).append ih

end Nested

/-! ## Blocks -/

theorem Command.nested (commands : List Command) :
    Nested [] [] (commands.map Command.render) (literals (commands.flatMap Command.lexemes)) := by
  induction commands with
  | nil => exact .nil
  | cons command rest ih =>
    rw [List.flatMap_cons, literals_append]
    exact .cons command.enclosed ih

/-- The head of an arm, after what stands before it. -/
theorem enclosed_condition {before : List Char} {text : String} (enclosed : Enclosed before [] text [])
    (condition : Term) :
    Enclosed before [] (text ++ "if (" ++ condition.render ++ ")") (literals condition.lexemes) := by
  have start : Enclosed [] [')'] "if (" [] := by decide
  exact ((enclosed.append start).append (condition.enclosed.inside _)).close enclosed_close

/-- An arm up to its closing brace, which belongs to what follows. -/
theorem nested_arm {before : List Char} {text : String} (enclosed : Enclosed before [] text [])
    (condition : Term) {lines values : List String} (nested : Nested [] [] lines values) :
    Nested before ['\x7d'] ((text ++ "if (" ++ condition.render ++ ") \x7b") :: lines.map indent)
      (literals condition.lexemes ++ values) := by
  have start : Enclosed [] [')'] "if (" [] := by decide
  have brace : Enclosed [')'] ['\x7d'] ") \x7b" [] := by decide
  have head := ((enclosed.append start).append (condition.enclosed.inside _)).close brace
  exact .cons head (nested.indented.inside ['\x7d'])

mutual

theorem Instruction.nested : ∀ instruction : Instruction,
    Nested [] [] instruction.lines (literals instruction.lexemes)
  | .command command => .one command.enclosed
  | .choice choice => choice.nested (by decide)
  | .loop head body => by
    rw [Instruction.lexemes, literals_append]
    exact .braced head.enclosed (Instruction.block_nested body)

theorem Instruction.block_nested : ∀ body : List Instruction,
    Nested [] [] (Instruction.blockLines body) (literals (Instruction.blockLexemes body))
  | [] => .nil
  | instruction :: rest => by
    rw [Instruction.blockLexemes, literals_append]
    exact instruction.nested.append (Instruction.block_nested rest)

theorem Choice.nested {before : List Char} {text : String} (enclosed : Enclosed before [] text []) :
    ∀ choice : Choice, Nested before [] (choice.lines text) (literals choice.lexemes)
  | .only condition body => by
    rw [Choice.lexemes, literals_word, literals_append]
    exact .braced (enclosed_condition enclosed condition) (Instruction.block_nested body)
  | .orElse condition body otherwise => by
    have head : Enclosed ['\x7d'] [] "\x7d else" [] := by decide
    have last := Nested.braced head (Instruction.block_nested otherwise)
    rw [Choice.lexemes, literals_word, literals_append, literals_append, literals_word]
    exact (nested_arm enclosed condition (Instruction.block_nested body)).append last
  | .orIf condition body rest => by
    have others : Nested ['\x7d'] [] (rest.lines "\x7d else ") (literals rest.lexemes) :=
      rest.nested (by decide)
    rw [Choice.lexemes, literals_word, literals_append, literals_append, literals_word]
    exact (nested_arm enclosed condition (Instruction.block_nested body)).append others

end

/-! ## The whole text -/

/-- Parts without literals, divided by something without literals. -/
theorem enclosed_intercalate {separator : String} (divides : Enclosed [] [] separator [])
    {parts : List String} (each : ∀ part ∈ parts, Enclosed [] [] part []) :
    Enclosed [] [] (separator.intercalate parts) [] := by
  induction parts with
  | nil => exact (by decide : Enclosed [] [] "" [])
  | cons part rest ih =>
    obtain ⟨first, later⟩ := List.forall_mem_cons.mp each
    cases rest with
    | nil => exact first
    | cons next others =>
      rw [String.intercalate_cons_cons]
      exact (first.close divides).append (ih later)

theorem Definition.enclosed (definition : Definition) : Enclosed [] [] definition.render [] := by
  cases definition with
  | pin name wired =>
    have start : Enclosed [] [] "const int " [] := by decide
    have equals : Enclosed [] [] " = " [] := by decide
    have semicolon : Enclosed [] [] ";" [] := by decide
    have wiredWord : Enclosed [] [] wired.text [] :=
      enclosed_word (Bool.and_eq_true_iff.mp wired.valid).2
    exact (((start.append (enclosed_name name)).append equals).append wiredWord).append semicolon
  | display name pins =>
    have start : Enclosed [] [] "LiquidCrystal " [] := by decide
    have bracket : Enclosed [] [')'] "(" [] := by decide
    have comma : Enclosed [] [] ", " [] := by decide
    have listed : Enclosed [] [] (", ".intercalate (pins.map Name.text)) [] := by
      refine enclosed_intercalate comma fun text member => ?_
      obtain ⟨pin, _, rfl⟩ := List.mem_map.mp member
      exact enclosed_name pin
    exact (((start.append (enclosed_name name)).append bracket).append (listed.inside _)).append enclosed_end

theorem Global.enclosed (variable_ : Global) : Enclosed [] [] variable_.render [] := by
  cases variable_ with
  | var name type =>
    have start : Enclosed [] [] (typeText type ++ " ") [] := by cases type <;> decide
    have semicolon : Enclosed [] [] ";" [] := by decide
    exact (start.append (enclosed_name name)).append semicolon
  | timer name =>
    have start : Enclosed [] [] "unsigned long " [] := by decide
    have now : Enclosed [] [] " = millis();" [] := by decide
    exact (start.append (enclosed_name name)).append now

theorem frontText_enclosed (sketch : Sketch) : Enclosed [] [] sketch.frontText [] := by
  have header : Enclosed [] [] (banner ++ "\n\n") [] := by decide
  have gap : Enclosed [] [] "\n\n" [] := by decide
  have newline : Enclosed [] [] "\n" [] := by decide
  have parts : ∀ lines ∈ sketch.declaring, ∀ line ∈ lines, Enclosed [] [] line [] := by
    intro lines member line inside
    rcases List.mem_cons.mp member with rfl | member
    · revert inside
      cases sketch.usesDisplay <;> revert line <;> decide
    · have listed := (List.mem_filter.mp member).1
      simp only [List.mem_cons, List.not_mem_nil, or_false] at listed
      rcases listed with rfl | rfl
      · obtain ⟨definition, _, rfl⟩ := List.mem_map.mp inside
        exact definition.enclosed
      · obtain ⟨variable_, _, rfl⟩ := List.mem_map.mp inside
        exact variable_.enclosed
  refine (header.append (enclosed_intercalate gap fun text member => ?_)).append gap
  obtain ⟨lines, listed, rfl⟩ := List.mem_map.mp member
  exact enclosed_intercalate newline (parts lines listed)

/-- The text of a sketch is enclosed, and its literals are those of the setup and of the
    loop. -/
theorem render_enclosed (sketch : Sketch) :
    Enclosed [] [] sketch.render (literals (sketch.setup.flatMap Command.lexemes) ++
      literals (Instruction.blockLexemes sketch.loop)) := by
  have gap : Enclosed [] [] "\n\n" [] := by decide
  have newline : Enclosed [] [] "\n" [] := by decide
  have setup : Enclosed [] [] sketch.setupText (literals (sketch.setup.flatMap Command.lexemes)) :=
    (Nested.braced (by decide : Enclosed [] [] "void setup()" []) (Command.nested sketch.setup)).intercalate
  have loop : Enclosed [] [] sketch.loopText (literals (Instruction.blockLexemes sketch.loop)) :=
    (Nested.braced (by decide : Enclosed [] [] "void loop()" [])
      (Instruction.block_nested sketch.loop)).intercalate
  rw [render_eq]
  exact ((((sketch.frontText_enclosed).append setup).close gap).append loop).close newline

end Sketch
end BlockSketch
