import BlockSketch.Proofs.Lexeme
import BlockSketch.Proofs.Outline
import BlockSketch.Proofs.Spelling
import Mathlib.Data.List.Basic

/-!
How the text of an expression is read back. The reader takes one outline off the front of a
text. From the text of a term it gives back the outline of the expression, whatever comes
behind, if only that begins with a delimiter; so texts that are equal belong to one
outline, and no text with a delimiter behind it begins another.
-/
namespace BlockSketch
namespace Sketch

/-! ## Delimiters -/

/-- What may stand behind an operand. -/
def delimiters : List Char :=
  [')', ',', ';', ' ']

/-- Nothing follows, or a delimiter. -/
def Delimited (rest : List Char) : Prop :=
  ∀ c ∈ rest.head?, c ∈ delimiters

theorem delimited_cons {c : Char} (delimiter : c ∈ delimiters) (rest : List Char) : Delimited (c :: rest) := by
  intro other same
  cases same
  exact delimiter

/-- The longest run of such characters in front, and what follows it. -/
def splitRun (p : Char → Bool) (text : List Char) : List Char × List Char :=
  (text.takeWhile p, text.dropWhile p)

/-- A run of characters ends in front of a delimiter. -/
theorem splitRun_append {p : Char → Bool} {run rest : List Char} (all : run.all p = true)
    (stops : delimiters.any p = false) (delimited : Delimited rest) :
    splitRun p (run ++ rest) = (run, rest) := by
  have ends : ∀ c ∈ rest.head?, p c = false := by
    intro c first
    simpa using List.any_eq_false.mp stops c (delimited c first)
  obtain ⟨front, back⟩ := run_split all ends
  rw [splitRun, front, back]

/-! ## Reading -/

/-- What follows the given words, if the text begins with them. -/
def skip (words : String) (text : List Char) : Option (List Char) :=
  words.toList.isPrefixOf? text

/-- The value of a literal, and what follows its closing quote. -/
def readQuoted? : List Char → Option (List Char × List Char)
  | [] => none
  | '"' :: rest => some ([], rest)
  | '\\' :: c :: rest => (readQuoted? rest).map fun (value, rest) => (Scan.unescape c :: value, rest)
  | c :: rest => (readQuoted? rest).map fun (value, rest) => (c :: value, rest)

/-- The component in the constant for the pin of a role. -/
def readPort? (role : String) (text : List Char) : Option (String × List Char) := do
  let (word, rest) := splitRun isWordChar text
  let name ← skip "_" word
  let port ← ("_" ++ roleText role).toList.isSuffixOf? name
  return (String.ofList port, rest)

/-- A way to take one outline off the front of a text. -/
abbrev Reader := List Char → Option (Outline × List Char)

def readNumber? : Reader := fun text =>
  match splitRun isNumeralChar text with
  | ([], _) => none
  | (digits, rest) => some (.number (String.ofList digits), rest)

def readBoolean? (value : Bool) : Reader := fun text => do
  let rest ← skip (boolText value) text
  return (.boolean value, rest)

def readText? : Reader := fun text => do
  let (value, rest) ← (skip "String(\"" text).bind readQuoted?
  let rest ← skip ")" rest
  return (.text (String.ofList value), rest)

def readVar? : Reader := fun text => do
  let (name, rest) := splitRun isWordChar (← skip "___" text)
  return (.var (String.ofList name), rest)

/-- A sensor with one pin, between these words. -/
def readSensor? (device : Sensor) (lead role close : String) : Reader := fun text => do
  let (port, rest) ← (skip lead text).bind (readPort? role)
  let rest ← skip close rest
  return (.sensor device port, rest)

/-- A sensor with two pins. -/
def readDistance? : Reader := fun text => do
  let (port, rest) ← (skip "_getUltrasonicDistance(" text).bind (readPort? "TRIG")
  let (_, rest) ← (skip ", " rest).bind (readPort? "ECHO")
  let rest ← skip ")" rest
  return (.sensor .ultrasonic port, rest)

def readElapsed? : Reader := fun text => do
  let (digits, rest) := splitRun Char.isDigit (← skip "(int) (millis() - __time_" text)
  let rest ← skip "))" rest
  return (.timer (Nat.ofDigitChars 10 digits 0), rest)

def readRemainder? (operand : Reader) : Reader := fun text => do
  let (left, rest) ← (skip "fmod(" text).bind operand
  let (right, rest) ← (skip ", " rest).bind operand
  let rest ← skip ")" rest
  return (.binary .mod left right, rest)

/-- An operator with the blank behind it. -/
def readBinaryOp? (text : List Char) : Option (BinaryOp × List Char) :=
  (Vocabulary.values : List BinaryOp).findSome? fun op => (skip (op.symbol ++ " ") text).map (op, ·)

def readBinary? (operand : Reader) : Reader := fun text => do
  let (left, rest) ← operand text
  let (op, rest) ← (skip " " rest).bind readBinaryOp?
  let (right, rest) ← operand rest
  let rest ← skip ")" rest
  return (.binary op left right, rest)

def readUnaryOp? (text : List Char) : Option (UnaryOp × List Char) :=
  (Vocabulary.values : List UnaryOp).findSome? fun op => (skip op.symbol text).map (op, ·)

def readUnary? (operand : Reader) : Reader := fun text => do
  let (op, rest) ← readUnaryOp? text
  let (inner, rest) ← operand rest
  let rest ← skip ")" rest
  return (.unary op inner, rest)

/-- The forms that do not begin with a bracket. -/
def readPlain? (operand : Reader) : Reader := fun text =>
  readNumber? text <|> readBoolean? true text <|> readBoolean? false text <|> readText? text <|>
    readVar? text <|> readSensor? .key "digitalRead(" "PIN1" ")" text <|> readDistance? text <|>
    readSensor? .temperature "_getTemperature(" "OUTPUT" ")" text <|> readRemainder? operand text

/-- What a bracket holds. A minus may be the sign of a left operand, so that comes first. -/
def readBracket? (operand : Reader) : Reader := fun text =>
  readBinary? operand text <|> readUnary? operand text <|>
    readSensor? .light "analogRead(" "OUTPUT" ") * 100 / 1023)" text <|> readElapsed? text

/-- Reads one outline that is not deeper than this. -/
def readOutline? : Nat → Reader
  | 0, _ => none
  | depth + 1, text =>
    readPlain? (readOutline? depth) text <|> (skip "(" text).bind (readBracket? (readOutline? depth))

/-! ## Words and values read back -/

@[simp] theorem skip_append (words : String) (rest : List Char) : skip words (words.toList ++ rest) = some rest :=
  List.isPrefixOf?_eq_some_iff_append_eq.mpr rfl

theorem readQuoted?_literal (value rest : List Char) :
    readQuoted? (value.flatMap literalChar ++ '"' :: rest) = some (value, rest) := by
  induction value with
  | nil => rfl
  | cons c value ih =>
    rw [List.flatMap_cons, List.append_assoc]
    rcases Scan.literalChar_cases c with ⟨d, escaped, rfl⟩ | ⟨plain, quote, backslash, _⟩
    · simp [escaped, readQuoted?, ih]
    · simp [plain, readQuoted?, backslash, ih]

theorem readPort?_pin (port : Identifier) (role : String) {rest : List Char} (delimited : Delimited rest) :
    readPort? role ((Name.pin port role).text.toList ++ rest) = some (port.text, rest) := by
  have word := Identifier.all_isWordChar ⟨(Name.pin port role).text, Name.isIdentifier_text _⟩
  have name : (Name.pin port role).text.toList =
      "_".toList ++ (port.text.toList ++ ("_" ++ roleText role).toList) := by
    simp only [Name.text, String.toList_append, List.append_assoc]
  have before : ("_" ++ roleText role).toList.isSuffixOf?
      (port.text.toList ++ ("_" ++ roleText role).toList) = some port.text.toList :=
    List.isSuffixOf?_eq_some_iff_append_eq.mpr rfl
  rw [readPort?, splitRun_append word (by decide) delimited]
  simp only [name, skip_append, before, String.ofList_toList, Option.bind_eq_bind, Option.bind_some,
    Option.pure_def]

theorem readElapsed?_timer (number : UInt8) (rest : List Char) :
    readElapsed? ("(int) (millis() - ".toList ++ ((Name.timer number).text.toList ++ ("))".toList ++ rest))) =
      some (.timer number.toNat, rest) := by
  have lead : "(int) (millis() - __time_".toList = "(int) (millis() - ".toList ++ "__time_".toList := by decide
  have digits : (toString number.toNat).toList = Nat.toDigits 10 number.toNat := Nat.toList_repr
  have all : (Nat.toDigits 10 number.toNat).all Char.isDigit = true :=
    List.all_eq_true.mpr fun c member => Nat.isDigit_of_mem_toDigits (by decide) (by decide) member
  have ends : Delimited ("))".toList ++ rest) := delimited_cons (by decide) _
  rw [Name.text, String.toList_append, digits, List.append_assoc, ← List.append_assoc, ← lead, readElapsed?]
  simp only [skip_append, splitRun_append all (by decide) ends, Nat.ofDigitChars_ten_toDigits,
    Option.bind_eq_bind, Option.bind_some, Option.pure_def]

/-! ## The forms of expressions -/

section
attribute [local simp] readPlain? readNumber? readBoolean? readText? readVar? readSensor? readDistance?
  readRemainder? splitRun skip boolText isNumeralChar List.isPrefixOf? String.toList_append

variable (operand : Reader) (rest : List Char)

theorem readPlain?_boolean (value : Bool) :
    readPlain? operand ((boolText value).toList ++ rest) = some (.boolean value, rest) := by
  cases value <;> simp

theorem readPlain?_text (value : String) :
    readPlain? operand ((literal value).toList ++ rest) = some (.text value, rest) := by
  simp [literal, readQuoted?_literal]

theorem readPlain?_pressed (port : Identifier) :
    readPlain? operand (("digitalRead(" ++ (Name.pin port "PIN1").text ++ ")").toList ++ rest) =
      some (.sensor .key port.text, rest) := by
  have read := readPort?_pin port "PIN1" (delimited_cons (c := ')') (by decide) rest)
  simp [read]

theorem readPlain?_distance (port : Identifier) :
    readPlain? operand (("_getUltrasonicDistance(" ++ (Name.pin port "TRIG").text ++ ", " ++
        (Name.pin port "ECHO").text ++ ")").toList ++ rest) =
      some (.sensor .ultrasonic port.text, rest) := by
  have trigger (more : List Char) := readPort?_pin port "TRIG" (delimited_cons (c := ',') (by decide) more)
  have echo := readPort?_pin port "ECHO" (delimited_cons (c := ')') (by decide) rest)
  simp [trigger, echo]

theorem readPlain?_temperature (port : Identifier) :
    readPlain? operand (("_getTemperature(" ++ (Name.pin port "OUTPUT").text ++ ")").toList ++ rest) =
      some (.sensor .temperature port.text, rest) := by
  have read := readPort?_pin port "OUTPUT" (delimited_cons (c := ')') (by decide) rest)
  simp [read]

theorem readPlain?_fmod :
    readPlain? operand ("fmod(".toList ++ rest) = readRemainder? operand ("fmod(".toList ++ rest) := by
  simp

/-- Nothing else begins with another character. -/
theorem readPlain?_cons_eq_none {c : Char} (number : isNumeralChar c = false)
    (other : c ∉ ['_', 't', 'f', 'S', 'd']) : readPlain? operand (c :: rest) = none := by
  simp only [List.mem_cons, List.not_mem_nil, or_false, not_or, ← ne_eq] at other
  simp [-isNumeralChar, number, other.1.symm, other.2.1.symm, other.2.2.1.symm, other.2.2.2.1.symm,
    other.2.2.2.2.symm]

theorem readPlain?_var (name : Identifier) {rest : List Char} (delimited : Delimited rest) :
    readPlain? operand (("___" ++ name.text).toList ++ rest) = some (.var name.text, rest) := by
  have word : splitRun isWordChar (name.text.toList ++ rest) = (name.text.toList, rest) :=
    splitRun_append name.all_isWordChar (by decide) delimited
  obtain ⟨run, after⟩ := Prod.mk.inj word
  simp [run, after]

end

theorem readNumber?_numeral (literal : Numeral) {rest : List Char} (delimited : Delimited rest) :
    readNumber? (literal.text.toList ++ rest) = some (.number literal.text, rest) := by
  obtain ⟨spelling, spelled⟩ := literal.exists_spelling
  have all : literal.text.toList.all isNumeralChar = true := spelled ▸ spelling.all_isNumeralChar
  rw [readNumber?, splitRun_append all (by decide) delimited]
  cases text : literal.text.toList with
  | nil => exact absurd (spelled.trans text) spelling.text_ne_nil
  | cons c others => rw [← String.ofList_toList (s := literal.text), text]

theorem readPlain?_number (operand : Reader) (literal : Numeral) {rest : List Char} (delimited : Delimited rest) :
    readPlain? operand (literal.text.toList ++ rest) = some (.number literal.text, rest) := by
  rw [readPlain?, readNumber?_numeral literal delimited]
  rfl

/-! ## Brackets -/

theorem readBinaryOp?_symbol (op : BinaryOp) (rest : List Char) :
    readBinaryOp? (op.symbol.toList ++ (" ".toList ++ rest)) = some (op, rest) := by
  cases op <;> simp [readBinaryOp?, Vocabulary.values, BinaryOp.symbol, skip, List.isPrefixOf?]

theorem readUnaryOp?_symbol (op : UnaryOp) (rest : List Char) :
    readUnaryOp? (op.symbol.toList ++ rest) = some (op, rest) := by
  cases op <;> simp [readUnaryOp?, Vocabulary.values, UnaryOp.symbol, skip, List.isPrefixOf?]

theorem readOutline?_of_readPlain? {depth : Nat} (deep : 0 < depth) {text : List Char} {found : Outline × List Char}
    (reads : ∀ operand, readPlain? operand text = some found) : readOutline? depth text = some found := by
  obtain ⟨depth, rfl⟩ := Nat.exists_eq_succ_of_ne_zero (Nat.ne_of_gt deep)
  rw [readOutline?, reads]
  rfl

theorem readOutline?_bracket (depth : Nat) (text : List Char) :
    readOutline? (depth + 1) ("(".toList ++ text) = readBracket? (readOutline? depth) text := by
  have plain : readPlain? (readOutline? depth) ("(".toList ++ text) = none :=
    readPlain?_cons_eq_none _ text (by decide) (by decide)
  rw [readOutline?, plain, skip_append]
  rfl

theorem readOutline?_cons_eq_none {c : Char} (number : isNumeralChar c = false)
    (other : c ∉ ['(', '_', 't', 'f', 'S', 'd']) (depth : Nat) (rest : List Char) :
    readOutline? depth (c :: rest) = none := by
  cases depth with
  | zero => rfl
  | succ depth =>
    obtain ⟨bracket, other⟩ := List.ne_and_not_mem_of_not_mem_cons other
    rw [readOutline?, readPlain?_cons_eq_none _ rest number other]
    simp [skip, List.isPrefixOf?, bracket.symm]

/-- The text begins like a term that is no number. -/
def Begins (text : String) : Prop :=
  ∃ c ∈ ['(', '_', 't', 'f', 'S', 'd'], text.toList.head? = some c

theorem Begins.append {text : String} (begins : Begins text) (rest : String) : Begins (text ++ rest) := by
  obtain ⟨c, known, first⟩ := begins
  exact ⟨c, known, by rw [String.toList_append, List.head?_append, first]; rfl⟩

theorem begins_portTerm (port : Identifier) (device : Sensor) : Begins (portTerm port device).render := by
  cases device with
  | key =>
    have lead : Begins "digitalRead(" := ⟨'d', by decide, rfl⟩
    exact (lead.append _).append _
  | ultrasonic =>
    have lead : Begins "_getUltrasonicDistance(" := ⟨'_', by decide, rfl⟩
    exact (((lead.append _).append _).append _).append _
  | light =>
    have lead : Begins "(analogRead(" := ⟨'(', by decide, rfl⟩
    exact (lead.append _).append _
  | temperature =>
    have lead : Begins "_getTemperature(" := ⟨'_', by decide, rfl⟩
    exact (lead.append _).append _

theorem begins_binary (op : BinaryOp) (left right : Term) : Begins (Term.binary op left right).render := by
  by_cases remainder : op = .mod
  · subst remainder
    have lead : Begins "fmod(" := ⟨'f', by decide, rfl⟩
    exact (((lead.append _).append _).append _).append _
  · have lead : Begins "(" := ⟨'(', by decide, rfl⟩
    rw [Term.render_binary remainder]
    exact (((((lead.append _).append _).append _).append _).append _).append _

/-- Only a number begins with a character of numbers. -/
theorem number_or_begins (expr : Expr) :
    (∃ label literal, expr = .number label literal) ∨ Begins (plainTerm expr).render := by
  cases expr with
  | number label literal => exact .inl ⟨label, literal, rfl⟩
  | boolean label value =>
    cases value with
    | true =>
      have lead : Begins "true" := ⟨'t', by decide, rfl⟩
      exact .inr lead
    | false =>
      have lead : Begins "false" := ⟨'f', by decide, rfl⟩
      exact .inr lead
  | text label value =>
    have lead : Begins "String(\"" := ⟨'S', by decide, rfl⟩
    exact .inr ((lead.append _).append _)
  | var label name type =>
    have lead : Begins "___" := ⟨'_', by decide, rfl⟩
    exact .inr (lead.append _)
  | binary label op left right => exact .inr (begins_binary op _ _)
  | unary label op operand =>
    have lead : Begins "(" := ⟨'(', by decide, rfl⟩
    exact .inr (((lead.append _).append _).append _)
  | sensor label device port => exact .inr (begins_portTerm port device)
  | timer label clock =>
    have lead : Begins "((int) (millis() - " := ⟨'(', by decide, rfl⟩
    exact .inr ((lead.append _).append _)

/-- A sign in front of an operand is not the sign of a left operand: no blank comes behind it. -/
theorem skip_blank_after_number (expr : Expr) (rest : List Char) :
    skip " " (((plainTerm expr).render.toList ++ (")".toList ++ rest)).dropWhile isNumeralChar) = none := by
  rcases number_or_begins expr with ⟨label, literal, rfl⟩ | ⟨c, known, first⟩
  · obtain ⟨spelling, spelled⟩ := literal.exists_spelling
    have all : literal.text.toList.all isNumeralChar = true := spelled ▸ spelling.all_isNumeralChar
    have ends : Delimited (")".toList ++ rest) := delimited_cons (by decide) _
    have split := splitRun_append all (by decide) ends
    show skip " " (splitRun isNumeralChar (literal.text.toList ++ (")".toList ++ rest))).2 = none
    rw [split]
    simp [skip, List.isPrefixOf?]
  · obtain ⟨others, text⟩ := List.head?_eq_some_iff.mp first
    rw [text]
    simp only [List.mem_cons, List.not_mem_nil, or_false] at known
    rcases known with rfl | rfl | rfl | rfl | rfl | rfl <;> simp [skip, List.isPrefixOf?, isNumeralChar]

theorem readBinary?_unary (op : UnaryOp) (operand : Expr) (depth : Nat) (rest : List Char) :
    readBinary? (readOutline? depth)
      (op.symbol.toList ++ ((plainTerm operand).render.toList ++ (")".toList ++ rest))) = none := by
  cases op with
  | not =>
    have mark (text : List Char) : readOutline? depth ("!".toList ++ text) = none :=
      readOutline?_cons_eq_none (by decide) (by decide) depth text
    rw [readBinary?, UnaryOp.symbol, mark]
    rfl
  | neg =>
    cases depth with
    | zero => rfl
    | succ depth =>
      have minus : isNumeralChar '-' = true := by decide
      have sign (text : List Char) : readOutline? (depth + 1) ("-".toList ++ text) =
          some (.number (String.ofList ('-' :: text.takeWhile isNumeralChar)), text.dropWhile isNumeralChar) := by
        simp [readOutline?, readPlain?, readNumber?, splitRun, minus]
      rw [readBinary?, UnaryOp.symbol, sign]
      simp only [skip_blank_after_number operand rest, Option.bind_eq_bind, Option.bind_some, Option.bind_none]

theorem readBracket?_unary {op : UnaryOp} {operand : Expr} {depth : Nat} {rest : List Char}
    (reads : readOutline? depth ((plainTerm operand).render.toList ++ (")".toList ++ rest)) =
      some (operand.outline, ")".toList ++ rest)) :
    readBracket? (readOutline? depth)
        (op.symbol.toList ++ ((plainTerm operand).render.toList ++ (")".toList ++ rest))) =
      some (.unary op operand.outline, rest) := by
  rw [readBracket?, readBinary?_unary, readUnary?, readUnaryOp?_symbol]
  simp only [reads, skip_append, Option.bind_eq_bind, Option.bind_some, Option.pure_def]
  rfl

theorem readBracket?_brightness (port : Identifier) (depth : Nat) (rest : List Char) :
    readBracket? (readOutline? depth) ("analogRead(".toList ++ ((Name.pin port "OUTPUT").text.toList ++
        (") * 100 / 1023)".toList ++ rest))) =
      some (.sensor .light port.text, rest) := by
  have operand (text : List Char) : readOutline? depth ("analogRead(".toList ++ text) = none :=
    readOutline?_cons_eq_none (by decide) (by decide) depth _
  have sign (text : List Char) : readUnaryOp? ("analogRead(".toList ++ text) = none := by
    simp [readUnaryOp?, Vocabulary.values, UnaryOp.symbol, skip, List.isPrefixOf?]
  have ends : Delimited (") * 100 / 1023)".toList ++ rest) := delimited_cons (by decide) _
  rw [readBracket?, readBinary?, operand, readUnary?, sign, readSensor?]
  simp only [readPort?_pin port "OUTPUT" ends, skip_append, Option.bind_eq_bind, Option.bind_some,
    Option.pure_def]
  rfl

/-- A cast is no operand. -/
theorem readOutline?_cast (depth : Nat) (rest : List Char) :
    readOutline? depth ("(int) (millis() - ".toList ++ rest) = none := by
  have split : "(int) (millis() - ".toList = "(".toList ++ "int) (millis() - ".toList := by decide
  cases depth with
  | zero => rfl
  | succ depth =>
    have operand (text : List Char) : readOutline? depth ("int) (millis() - ".toList ++ text) = none :=
      readOutline?_cons_eq_none (by decide) (by decide) depth _
    rw [split, List.append_assoc, readOutline?_bracket, readBracket?, readBinary?, operand]
    simp [readUnary?, readUnaryOp?, Vocabulary.values, UnaryOp.symbol, readSensor?, readElapsed?, skip,
      List.isPrefixOf?]

theorem readBracket?_elapsed (number : UInt8) (depth : Nat) (rest : List Char) :
    readBracket? (readOutline? depth)
        ("(int) (millis() - ".toList ++ ((Name.timer number).text.toList ++ ("))".toList ++ rest))) =
      some (.timer number.toNat, rest) := by
  have sign (text : List Char) : readUnaryOp? ("(int) (millis() - ".toList ++ text) = none := by
    simp [readUnaryOp?, Vocabulary.values, UnaryOp.symbol, skip, List.isPrefixOf?]
  have brightness (text : List Char) : skip "analogRead(" ("(int) (millis() - ".toList ++ text) = none := by
    simp [skip, List.isPrefixOf?]
  rw [readBracket?, readBinary?, readOutline?_cast, readUnary?, sign, readSensor?, brightness, readElapsed?_timer]
  rfl

/-! ## Expressions read back -/

/-- The text of an expression in front of a delimiter is read as the outline of the
    expression, and nothing more is taken. -/
theorem readOutline?_render (expr : Expr) {depth : Nat} (deep : expr.parts.length ≤ depth) {rest : List Char}
    (delimited : Delimited rest) :
    readOutline? depth ((plainTerm expr).render.toList ++ rest) = some (expr.outline, rest) := by
  induction expr generalizing depth rest with
  | number label literal =>
    exact readOutline?_of_readPlain? deep fun operand => readPlain?_number operand literal delimited
  | boolean label value =>
    exact readOutline?_of_readPlain? deep fun operand => readPlain?_boolean operand rest value
  | text label value => exact readOutline?_of_readPlain? deep fun operand => readPlain?_text operand rest value
  | var label name type =>
    exact readOutline?_of_readPlain? deep fun operand => readPlain?_var operand name delimited
  | binary label op left right ihLeft ihRight =>
    simp only [Expr.parts, List.length_cons, List.length_append] at deep
    obtain ⟨depth, rfl⟩ : ∃ inner, depth = inner + 1 := Nat.exists_eq_succ_of_ne_zero (by omega)
    have close : Delimited (")".toList ++ rest) := delimited_cons (by decide) _
    have deepLeft : left.parts.length ≤ depth := by omega
    have deepRight : right.parts.length ≤ depth := by omega
    have readRight := ihRight deepRight close
    by_cases remainder : op = .mod
    · subst remainder
      have comma (text : List Char) : Delimited (", ".toList ++ text) := delimited_cons (by decide) _
      have readLeft (text : List Char) := ihLeft deepLeft (comma text)
      simp only [plainTerm, Term.render_mod, String.toList_append, List.append_assoc]
      rw [readOutline?, readPlain?_fmod, readRemainder?]
      simp only [skip_append, readLeft, readRight, Option.bind_eq_bind, Option.bind_some, Option.pure_def]
      rfl
    · have blank (text : List Char) : Delimited (" ".toList ++ text) := delimited_cons (by decide) _
      have readLeft (text : List Char) := ihLeft deepLeft (blank text)
      simp only [plainTerm, Term.render_binary remainder, String.toList_append, List.append_assoc]
      rw [readOutline?_bracket, readBracket?, readBinary?]
      simp only [skip_append, readLeft, readRight, readBinaryOp?_symbol, Option.bind_eq_bind, Option.bind_some,
        Option.pure_def]
      rfl
  | unary label op operand ih =>
    simp only [Expr.parts, List.length_cons] at deep
    obtain ⟨depth, rfl⟩ : ∃ inner, depth = inner + 1 := Nat.exists_eq_succ_of_ne_zero (by omega)
    have close : Delimited (")".toList ++ rest) := delimited_cons (by decide) _
    have text : (plainTerm (.unary label op operand)).render =
        "(" ++ op.symbol ++ (plainTerm operand).render ++ ")" := rfl
    simp only [text, String.toList_append, List.append_assoc]
    rw [readOutline?_bracket, readBracket?_unary (ih (by omega) close)]
    rfl
  | sensor label device port =>
    cases device with
    | key => exact readOutline?_of_readPlain? deep fun operand => readPlain?_pressed operand rest port
    | ultrasonic => exact readOutline?_of_readPlain? deep fun operand => readPlain?_distance operand rest port
    | temperature => exact readOutline?_of_readPlain? deep fun operand => readPlain?_temperature operand rest port
    | light =>
      obtain ⟨depth, rfl⟩ := Nat.exists_eq_succ_of_ne_zero (Nat.ne_of_gt deep)
      have lead : "(analogRead(".toList = "(".toList ++ "analogRead(".toList := by decide
      have text : (plainTerm (.sensor label .light port)).render =
          "(analogRead(" ++ (Name.pin port "OUTPUT").text ++ ") * 100 / 1023)" := rfl
      simp only [text, String.toList_append, lead, List.append_assoc]
      rw [readOutline?_bracket, readBracket?_brightness]
      rfl
  | timer label clock =>
    obtain ⟨depth, rfl⟩ := Nat.exists_eq_succ_of_ne_zero (Nat.ne_of_gt deep)
    have lead : "((int) (millis() - ".toList = "(".toList ++ "(int) (millis() - ".toList := by decide
    have text : (plainTerm (.timer label clock)).render =
        "((int) (millis() - " ++ (Name.timer clock.number).text ++ "))" := rfl
    simp only [text, String.toList_append, lead, List.append_assoc]
    rw [readOutline?_bracket, readBracket?_elapsed]
    rfl

/-- Where two texts of expressions go on with a delimiter, they are the same as far as the
    delimiter. -/
theorem outline_eq_of_append_eq {first second : Expr} {rest others : List Char} (ends : Delimited rest)
    (otherEnds : Delimited others)
    (same : (plainTerm first).render.toList ++ rest = (plainTerm second).render.toList ++ others) :
    first.outline = second.outline ∧ rest = others := by
  have deep : first.parts.length ≤ first.parts.length + second.parts.length := Nat.le_add_right _ _
  have otherDeep : second.parts.length ≤ first.parts.length + second.parts.length := Nat.le_add_left _ _
  have read := readOutline?_render first deep ends
  rw [same, readOutline?_render second otherDeep otherEnds] at read
  obtain ⟨outline, rest⟩ := Prod.mk.inj (Option.some.inj read)
  exact ⟨outline.symm, rest.symm⟩

end Sketch

open Sketch

/-- Expressions whose terms have the same text say the same. No text of a term begins with
    that of another and a delimiter, so that in any longer text it is settled where an
    operand ends. -/
theorem emitted_texts_unambiguous {configuration : Configuration} {first second : Expr}
    {firstTerm secondTerm : Term} (firstEmitted : exprTerm configuration first = .ok firstTerm)
    (secondEmitted : exprTerm configuration second = .ok secondTerm) :
    (firstTerm.render = secondTerm.render → first.outline = second.outline) ∧
      (∀ delimiter ∈ delimiters,
        ¬(firstTerm.render.toList ++ [delimiter]) <+: secondTerm.render.toList ∧
        ¬(secondTerm.render.toList ++ [delimiter]) <+: firstTerm.render.toList) ∧
      ∀ rest others, Delimited rest → Delimited others →
        firstTerm.render.toList ++ rest = secondTerm.render.toList ++ others →
        first.outline = second.outline ∧ rest = others := by
  obtain rfl := eq_plainTerm_of_exprTerm firstEmitted
  obtain rfl := eq_plainTerm_of_exprTerm secondEmitted
  have whole : Delimited [] := fun c impossible => by cases impossible
  -- A text that began with the other and a delimiter would go on where its own text ends.
  have longer {short long : Expr} {delimiter : Char} (known : delimiter ∈ delimiters) :
      ¬((plainTerm short).render.toList ++ [delimiter]) <+: (plainTerm long).render.toList := by
    rintro ⟨rest, same⟩
    rw [List.append_assoc, List.singleton_append, ← List.append_nil (plainTerm long).render.toList] at same
    exact List.cons_ne_nil _ _ (outline_eq_of_append_eq (delimited_cons known rest) whole same).2
  refine ⟨fun same => ?_, fun delimiter known => ⟨longer known, longer known⟩, ?_⟩
  · have both : (plainTerm first).render.toList ++ [] = (plainTerm second).render.toList ++ [] := by rw [same]
    exact (outline_eq_of_append_eq whole whole both).1
  · intro rest others ends otherEnds same
    exact outline_eq_of_append_eq ends otherEnds same

def Numeral.five : Numeral :=
  ⟨"5", ⟨false, 5 * Double.one⟩, by decide +kernel⟩

def Numeral.minusFive : Numeral :=
  ⟨"-5", ⟨true, 5 * Double.one⟩, by decide +kernel⟩

/-- The operand with the other sign: `(-5)`. -/
def Expr.negated : Expr :=
  .unary ⟨[0], {}⟩ .neg (.number ⟨[0, 0], {}⟩ .five)

/-- A sum whose left operand has a sign: `(-5 + ___wide)`. -/
def Expr.shortened : Expr :=
  .binary ⟨[1], {}⟩ .add (.number ⟨[0, 1], {}⟩ .minusFive) (.var ⟨[1, 1], {}⟩ ⟨"wide", by decide⟩ .number)

def Configuration.unwired : Configuration :=
  { Configuration.empty with robot := "arduino" }

/-- The two texts begin alike, but neither operation can be taken for the other. -/
theorem signs_told_apart :
    exprTerm .unwired .negated = .ok (plainTerm .negated) ∧
      exprTerm .unwired .shortened = .ok (plainTerm .shortened) ∧
      ((plainTerm .negated).render = (plainTerm .shortened).render →
        Expr.negated.outline = Expr.shortened.outline) ∧
      (∀ delimiter ∈ delimiters,
        ¬((plainTerm .negated).render.toList ++ [delimiter]) <+: (plainTerm .shortened).render.toList ∧
        ¬((plainTerm .shortened).render.toList ++ [delimiter]) <+: (plainTerm .negated).render.toList) ∧
      ∀ rest others, Delimited rest → Delimited others →
        (plainTerm .negated).render.toList ++ rest = (plainTerm .shortened).render.toList ++ others →
        Expr.negated.outline = Expr.shortened.outline ∧ rest = others :=
  have negated : exprTerm .unwired .negated = .ok (plainTerm .negated) := rfl
  have shortened : exprTerm .unwired .shortened = .ok (plainTerm .shortened) := rfl
  ⟨negated, shortened, emitted_texts_unambiguous negated shortened⟩

end BlockSketch
