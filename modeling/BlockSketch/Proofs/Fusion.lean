import BlockSketch.Proofs.Doubling
import BlockSketch.Proofs.Munch

/-!
Operators that run together. Each term is meant as certain tokens (`Term.tokens`). Its text is
read as these tokens, unless it negates a number that has a minus already: then the two signs
are read as one operator (`operators_fuse_at_negated_minus`).
-/
namespace BlockSketch

/-! ## What terms are meant as -/

open Munch Sketch

/-- The sign of a number is a token of its own. -/
def Numeral.tokens (literal : Numeral) : List String :=
  match literal.text.toList with
  | '+' :: size => ["+", String.ofList size]
  | '-' :: size => ["-", String.ofList size]
  | _ => [literal.text]

def Sketch.Term.tokens : Term → List String
  | number literal => literal.tokens
  | boolean value => [boolText value]
  | text value => ["String", "(", quoted value, ")"]
  | name referent => [referent.text]
  | binary .mod left right => "fmod" :: "(" :: (left.tokens ++ "," :: (right.tokens ++ [")"]))
  | binary op left right => "(" :: (left.tokens ++ op.symbol :: (right.tokens ++ [")"]))
  | unary op operand => "(" :: op.symbol :: (operand.tokens ++ [")"])
  | pressed pin => ["digitalRead", "(", pin.text, ")"]
  | distance trigger echo => ["_getUltrasonicDistance", "(", trigger.text, ",", echo.text, ")"]
  | brightness pin => ["(", "analogRead", "(", pin.text, ")", "*", "100", "/", "1023", ")"]
  | temperature pin => ["_getTemperature", "(", pin.text, ")"]
  | elapsed timer => ["(", "(", "int", ")", "(", "millis", "(", ")", "-", timer.text, ")", ")"]

theorem Sketch.Term.tokens_mod (left right : Term) :
    (binary .mod left right).tokens = "fmod" :: "(" :: (left.tokens ++ "," :: (right.tokens ++ [")"])) := rfl

theorem Sketch.Term.tokens_binary {op : BinaryOp} (other : op ≠ .mod) (left right : Term) :
    (binary op left right).tokens = "(" :: (left.tokens ++ op.symbol :: (right.tokens ++ [")"])) := by
  cases op with
  | mod => exact absurd rfl other
  | _ => rfl

namespace Munch
variable {rest : List Char} {others : List String}

theorem size_head (spelling : Decimal.Spelling) (rest : List Char) :
    ∀ c ∈ (spelling.size ++ rest).head?, c ∉ ['+', '-', '=', '>'] := by
  intro c first mark
  have begins : c.isDigit = true ∨ c = '.' := by
    rcases spelling.size_start with ⟨digit, tail, start, isDigit⟩ | ⟨digit, tail, start, _⟩
    · rw [start] at first
      cases first
      exact .inl isDigit
    · rw [start] at first
      cases first
      exact .inr rfl
  simp only [List.mem_cons, List.not_mem_nil, or_false] at mark
  rcases mark with rfl | rfl | rfl | rfl <;> revert begins <;> decide

/-- A number is meant as its size alone, or as its sign and its size. -/
theorem tokens_cases {literal : Numeral} {spelling : Decimal.Spelling}
    (spelled : spelling.text = literal.text.toList) :
    spelling.size = literal.text.toList ∧ literal.tokens = [literal.text] ∨
      ∃ sign ∈ ['+', '-'], literal.text.toList = sign :: spelling.size ∧
        literal.tokens = [String.ofList [sign], String.ofList spelling.size] := by
  have unsigned := size_head spelling []
  rw [List.append_nil] at unsigned
  rw [Decimal.Spelling.text] at spelled
  unfold Numeral.tokens
  rcases spelling.isSign with sign | sign | sign
  · rw [sign, List.nil_append] at spelled
    refine .inl ⟨spelled, ?_⟩
    rw [← spelled]
    split
    · next start => exact absurd (by decide) (unsigned '+' (by rw [start]; rfl))
    · next start => exact absurd (by decide) (unsigned '-' (by rw [start]; rfl))
    · rfl
  · rw [sign, List.singleton_append] at spelled
    refine .inr ⟨'+', by decide, spelled.symm, ?_⟩
    rw [← spelled]
    rfl
  · rw [sign, List.singleton_append] at spelled
    refine .inr ⟨'-', by decide, spelled.symm, ?_⟩
    rw [← spelled]
    rfl

theorem lexes_numeral (literal : Numeral) (delimited : Delimited rest) :
    Lexes (literal.text.toList ++ rest) (literal.tokens ++ others) ↔ Lexes rest others := by
  obtain ⟨spelling, spelled⟩ := literal.exists_spelling
  have takes := takes_size spelling delimited
  rcases tokens_cases spelled with ⟨unsigned, tokens⟩ | ⟨sign, known, signed, tokens⟩
  · rw [unsigned] at takes
    rw [tokens]
    exact takes.lexes_iff
  · have mark : Takes (sign :: (spelling.size ++ rest)) (String.ofList [sign]).toList (spelling.size ++ rest) := by
      rw [String.toList_ofList]
      refine takes_mark (List.mem_append_left ['!'] known) fun c first longer => size_head spelling rest c first ?_
      rcases List.mem_cons.mp longer with rfl | equals
      · exact List.mem_append_left ['=', '>'] known
      · exact List.mem_append_right ['+', '-'] equals
    have size : Takes (spelling.size ++ rest) (String.ofList spelling.size).toList rest := by
      rw [String.toList_ofList]
      exact takes
    rw [signed, tokens]
    exact mark.lexes_iff.trans size.lexes_iff

/-! ## Expressions -/

/-- In front of a delimiter the text of the expression is read as what its term is meant as,
    unless it has two minus signs in a row. -/
def Lexed (expr : Expr) : Prop :=
  ∀ rest others, Delimited rest →
    (Lexes ((plainTerm expr).render.toList ++ rest) ((plainTerm expr).tokens ++ others) ↔
      expr.doubles '-' = false ∧ Lexes rest others)

/-- Text without operators is read as it is meant. -/
theorem Lexed.of_iff {expr : Expr} (quiet : expr.doubles '-' = false)
    (lexes : ∀ rest others, Delimited rest →
      (Lexes ((plainTerm expr).render.toList ++ rest) ((plainTerm expr).tokens ++ others) ↔ Lexes rest others)) :
    Lexed expr := by
  intro rest others delimited
  rw [quiet, lexes rest others delimited]
  simp

theorem delimited_close (rest : List Char) : Delimited (")".toList ++ rest) :=
  delimited_cons (by decide) _

theorem delimited_comma (rest : List Char) : Delimited (", ".toList ++ rest) :=
  delimited_cons (by decide) _

theorem delimited_blank (rest : List Char) : Delimited (" ".toList ++ rest) :=
  delimited_cons (by decide) _

theorem lexed_text (label : Label) (value : String) : Lexed (.text label value) := by
  refine .of_iff rfl fun rest others _ => ?_
  have lead : "String(\"".toList = "String".toList ++ ("(".toList ++ "\"".toList) := by decide
  have close : "\")".toList = "\"".toList ++ ")".toList := by decide
  have render : (plainTerm (.text label value)).render.toList ++ rest =
      "String".toList ++ ("(".toList ++ ((quoted value).toList ++ (")".toList ++ rest))) := by
    show (literal value).toList ++ rest = _
    simp only [literal, quoted, String.toList_append, lead, close, List.append_assoc]
  have tokens : (plainTerm (.text label value)).tokens ++ others =
      "String" :: "(" :: quoted value :: ")" :: others := rfl
  rw [render, tokens, lexes_call _ _ (by decide), (takes_quoted value _).lexes_iff, lexes_close]

theorem lexed_sensor (label : Label) (device : Sensor) (port : Identifier) : Lexed (.sensor label device port) := by
  refine .of_iff rfl fun rest others _ => ?_
  cases device with
  | key =>
    have lead : "digitalRead(".toList = "digitalRead".toList ++ "(".toList := by decide
    have render : (plainTerm (.sensor label .key port)).render =
        "digitalRead(" ++ (Name.pin port "PIN1").text ++ ")" := rfl
    have tokens : (plainTerm (.sensor label .key port)).tokens ++ others =
        "digitalRead" :: "(" :: (Name.pin port "PIN1").text :: ")" :: others := rfl
    simp only [render, String.toList_append, lead, List.append_assoc]
    rw [tokens, lexes_call _ _ (by decide), lexes_name _ (delimited_close _), lexes_close]
  | ultrasonic =>
    have lead : "_getUltrasonicDistance(".toList = "_getUltrasonicDistance".toList ++ "(".toList := by decide
    have render : (plainTerm (.sensor label .ultrasonic port)).render =
        "_getUltrasonicDistance(" ++ (Name.pin port "TRIG").text ++ ", " ++ (Name.pin port "ECHO").text ++ ")" := rfl
    have tokens : (plainTerm (.sensor label .ultrasonic port)).tokens ++ others =
        "_getUltrasonicDistance" :: "(" :: (Name.pin port "TRIG").text :: "," :: (Name.pin port "ECHO").text ::
          ")" :: others := rfl
    simp only [render, String.toList_append, lead, List.append_assoc]
    rw [tokens, lexes_call _ _ (by decide), lexes_name _ (delimited_comma _), lexes_comma,
      lexes_name _ (delimited_close _), lexes_close]
  | light =>
    have lead : "(analogRead(".toList = "(".toList ++ ("analogRead".toList ++ "(".toList) := by decide
    have scale : ") * 100 / 1023)".toList = ")".toList ++ (" ".toList ++ ("*".toList ++ (" ".toList ++
        ("100".toList ++ (" ".toList ++ ("/".toList ++ (" ".toList ++ ("1023".toList ++ ")".toList)))))))) := by decide
    have render : (plainTerm (.sensor label .light port)).render =
        "(analogRead(" ++ (Name.pin port "OUTPUT").text ++ ") * 100 / 1023)" := rfl
    have tokens : (plainTerm (.sensor label .light port)).tokens ++ others =
        "(" :: "analogRead" :: "(" :: (Name.pin port "OUTPUT").text :: ")" :: BinaryOp.multiply.symbol :: "100" ::
          BinaryOp.divide.symbol :: "1023" :: ")" :: others := rfl
    have times : "*".toList = BinaryOp.multiply.symbol.toList := rfl
    have division : "/".toList = BinaryOp.divide.symbol.toList := rfl
    simp only [render, String.toList_append, lead, scale, times, division, List.append_assoc]
    rw [tokens, lexes_open, lexes_call _ _ (by decide), lexes_name _ (delimited_close _), lexes_close, lexes_blank,
      lexes_operator, lexes_digits (by decide) (by decide) (delimited_blank _), lexes_blank, lexes_operator,
      lexes_digits (by decide) (by decide) (delimited_close _), lexes_close]
  | temperature =>
    have lead : "_getTemperature(".toList = "_getTemperature".toList ++ "(".toList := by decide
    have render : (plainTerm (.sensor label .temperature port)).render =
        "_getTemperature(" ++ (Name.pin port "OUTPUT").text ++ ")" := rfl
    have tokens : (plainTerm (.sensor label .temperature port)).tokens ++ others =
        "_getTemperature" :: "(" :: (Name.pin port "OUTPUT").text :: ")" :: others := rfl
    simp only [render, String.toList_append, lead, List.append_assoc]
    rw [tokens, lexes_call _ _ (by decide), lexes_name _ (delimited_close _), lexes_close]

theorem lexed_timer (label : Label) (clock : TimerId) : Lexed (.timer label clock) := by
  refine .of_iff rfl fun rest others _ => ?_
  have lead : "((int) (millis() - ".toList = "(".toList ++ ("(".toList ++ ("int".toList ++ (")".toList ++
      (" ".toList ++ ("(".toList ++ ("millis".toList ++ ("(".toList ++ (")".toList ++ (" ".toList ++
        ("-".toList ++ " ".toList)))))))))) := by decide
  have closes : "))".toList = ")".toList ++ ")".toList := by decide
  have minus : "-".toList = BinaryOp.minus.symbol.toList := rfl
  have render : (plainTerm (.timer label clock)).render =
      "((int) (millis() - " ++ (Name.timer clock.number).text ++ "))" := rfl
  have tokens : (plainTerm (.timer label clock)).tokens ++ others =
      "(" :: "(" :: "int" :: ")" :: "(" :: "millis" :: "(" :: ")" :: BinaryOp.minus.symbol ::
        (Name.timer clock.number).text :: ")" :: ")" :: others := rfl
  simp only [render, String.toList_append, lead, closes, minus, List.append_assoc]
  rw [tokens, lexes_open, lexes_open, lexes_word (by decide) (delimited_close _), lexes_close, lexes_blank, lexes_open,
    lexes_call _ _ (by decide), lexes_close, lexes_blank, lexes_operator, lexes_name _ (delimited_close _),
    lexes_close, lexes_close]

theorem lexed_binary {left right : Expr} (first : Lexed left) (second : Lexed right) (label : Label) (op : BinaryOp) :
    Lexed (.binary label op left right) := by
  intro rest others _
  have parts : (Expr.binary label op left right).doubles '-' = (left.doubles '-' || right.doubles '-') := by
    simp [Expr.doubles, Expr.parts, Expr.meets]
  rw [parts, Bool.or_eq_false_iff, and_assoc]
  by_cases remainder : op = .mod
  · subst remainder
    have lead : "fmod(".toList = "fmod".toList ++ "(".toList := by decide
    simp only [plainTerm, Term.render_mod, Term.tokens_mod, String.toList_append, lead, List.append_assoc,
      List.cons_append, List.nil_append]
    rw [lexes_call _ _ (by decide), first _ _ (delimited_comma _), lexes_comma, second _ _ (delimited_close _),
      lexes_close]
  · simp only [plainTerm, Term.render_binary remainder, Term.tokens_binary remainder, String.toList_append,
      List.append_assoc, List.cons_append, List.nil_append]
    rw [lexes_open, first _ _ (delimited_blank _), lexes_blank, lexes_operator, second _ _ (delimited_close _),
      lexes_close]

/-- No operand begins like the rest of an operator, but for signs. -/
theorem operand_head (operand : Expr) (rest : List Char) :
    ∀ c ∈ ((plainTerm operand).render.toList ++ rest).head?, c ∉ ['!', '=', '>'] := by
  intro c first mark
  have known : isNumeralChar c = true ∨ c ∈ ['(', '_', 't', 'f', 'S', 'd'] := by
    rcases number_or_begins operand with ⟨label, literal, rfl⟩ | ⟨d, known, begins⟩
    · obtain ⟨spelling, spelled⟩ := literal.exists_spelling
      have all := spelling.all_isNumeralChar
      have nonempty := spelling.text_ne_nil
      have text : (plainTerm (.number label literal)).render.toList = spelling.text := spelled.symm
      rw [text] at first
      cases start : spelling.text with
      | nil => exact absurd start nonempty
      | cons d others =>
        rw [start] at first all
        obtain rfl : d = c := Option.some.inj first
        exact .inl (List.all_eq_true.mp all d List.mem_cons_self)
    · obtain ⟨others, text⟩ := List.head?_eq_some_iff.mp begins
      rw [text] at first
      cases first
      exact .inr known
  simp only [List.mem_cons, List.not_mem_nil, or_false] at mark
  rcases mark with rfl | rfl | rfl <;> revert known <;> decide

/-- Where a minus stands in front of an operand that begins with one, the two are read as one. -/
theorem lexes_unaryOp (op : UnaryOp) (operand : Expr) (rest : List Char) (others : List String) :
    Lexes (op.symbol.toList ++ ((plainTerm operand).render.toList ++ rest)) (op.symbol :: others) ↔
      (op.symbol.toList == ['-'] && (plainTerm operand).render.toList.head? == some '-') = false ∧
        Lexes ((plainTerm operand).render.toList ++ rest) others := by
  have ends := operand_head operand rest
  have nonempty : (plainTerm operand).render.toList ≠ [] := (passes_plainTerm (.inr rfl) operand).ne_nil
  generalize (plainTerm operand).render.toList = text at ends nonempty ⊢
  cases op with
  | not =>
    have takes : Takes (UnaryOp.not.symbol.toList ++ (text ++ rest)) UnaryOp.not.symbol.toList (text ++ rest) :=
      takes_mark (by decide) ends
    rw [takes.lexes_iff]
    simp [UnaryOp.symbol]
  | neg =>
    by_cases minus : text.head? = some '-'
    · obtain ⟨tail, rfl⟩ := List.head?_eq_some_iff.mp minus
      constructor
      · intro lexes
        cases lexes with
        | token takes _ => exact (not_takes_minus takes).elim
      · rintro ⟨single, _⟩
        cases single
    · have apart : ∀ c ∈ (text ++ rest).head?, c ∉ ['-', '=', '>'] := by
        intro c first longer
        rcases List.mem_cons.mp longer with rfl | equals
        · cases text with
          | nil => exact nonempty rfl
          | cons d tail => exact minus first
        · exact ends c first (List.mem_cons_of_mem _ equals)
      have takes : Takes (UnaryOp.neg.symbol.toList ++ (text ++ rest)) UnaryOp.neg.symbol.toList (text ++ rest) :=
        takes_mark (by decide) apart
      rw [takes.lexes_iff]
      simp [minus]

theorem lexed_unary {operand : Expr} (inner : Lexed operand) (label : Label) (op : UnaryOp) :
    Lexed (.unary label op operand) := by
  intro rest others _
  have parts : (Expr.unary label op operand).doubles '-' =
      ((Expr.unary label op operand).meets '-' || operand.doubles '-') := rfl
  have render : (plainTerm (.unary label op operand)).render =
      "(" ++ op.symbol ++ (plainTerm operand).render ++ ")" := rfl
  have tokens : (plainTerm (.unary label op operand)).tokens ++ others =
      "(" :: op.symbol :: ((plainTerm operand).tokens ++ (")" :: others)) := by
    show "(" :: op.symbol :: ((plainTerm operand).tokens ++ [")"] ++ others) = _
    rw [List.append_assoc, List.singleton_append]
  rw [parts, meets_unary (.inr rfl), Bool.or_eq_false_iff, and_assoc, render, tokens]
  simp only [String.toList_append, List.append_assoc]
  rw [lexes_open, lexes_unaryOp, inner _ _ (delimited_close _), lexes_close]

theorem lexed (expr : Expr) : Lexed expr := by
  induction expr with
  | number label literal => exact .of_iff rfl fun _ _ delimited => lexes_numeral literal delimited
  | boolean label value =>
    have valid : isIdentifier (boolText value) = true := by cases value <;> decide
    exact .of_iff rfl fun _ others delimited => lexes_word valid delimited others
  | text label value => exact lexed_text label value
  | var label name type => exact .of_iff rfl fun _ others delimited => lexes_name (.var name) delimited others
  | binary label op left right first second => exact lexed_binary first second label op
  | unary label op operand inner => exact lexed_unary inner label op
  | sensor label device port => exact lexed_sensor label device port
  | timer label clock => exact lexed_timer label clock

end Munch

/-! ## Signs in a row -/

/-- The expression negates a number that has a minus already. -/
def Expr.NegatesMinus (expr : Expr) : Prop :=
  ∃ label inner literal, .unary label .neg (.number inner literal) ∈ expr.parts ∧
    literal.text.toList.head? = some '-'

theorem Expr.doubles_minus_iff {expr : Expr} : expr.doubles '-' = true ↔ expr.NegatesMinus := by
  rw [doubles, List.any_eq_true]
  constructor
  · rintro ⟨part, member, meeting⟩
    unfold meets at meeting
    split at meeting
    · next label op inner literal =>
      simp only [Bool.and_eq_true, beq_iff_eq] at meeting
      cases op with
      | neg => exact ⟨label, inner, literal, member, meeting.2⟩
      | not => exact absurd meeting.1 (by decide)
    · cases meeting
  · rintro ⟨label, inner, literal, member, minus⟩
    exact ⟨_, member, by simp [meets, UnaryOp.symbol, minus]⟩

/-- There is no operator for a plus in front of an operand. -/
theorem Expr.doubles_plus (expr : Expr) : expr.doubles '+' = false := by
  have minusOrNot (op : UnaryOp) : op.symbol.toList ≠ ['+'] := by cases op <;> decide
  rw [doubles, List.any_eq_false]
  intro part member meeting
  unfold meets at meeting
  split at meeting
  · next label op inner literal =>
    simp only [Bool.and_eq_true, beq_iff_eq] at meeting
    exact minusOrNot op meeting.1
  · cases meeting

/-- Two minus signs stand in a row outside literals exactly where a number is negated that has
    a minus already, and two plus signs never do. Only there do operators run together: all
    other terms are read as the tokens they are meant as. -/
theorem operators_fuse_at_negated_minus {configuration : Configuration} {expr : Expr} {term : Term}
    (emitted : exprTerm configuration expr = .ok term) :
    (Doubled '-' term.render ↔ expr.NegatesMinus) ∧ ¬Doubled '+' term.render ∧
      (Lexes term.render.toList term.tokens ↔ ¬expr.NegatesMinus) := by
  obtain rfl := eq_plainTerm_of_exprTerm emitted
  have whole : Delimited [] := nofun
  have read := lexed expr [] [] whole
  rw [List.append_nil, List.append_nil, and_iff_left .done, ← Bool.not_eq_true, Expr.doubles_minus_iff] at read
  rw [doubled_iff (.inr rfl), doubled_iff (.inl rfl), expr.doubles_plus, Expr.doubles_minus_iff]
  exact ⟨Iff.rfl, Bool.false_ne_true, read⟩

/-- `(-5 - (-5))` has three minus signs. -/
def Expr.spacedSigns : Expr :=
  .binary ⟨[0], {}⟩ .minus (.number ⟨[0, 0], {}⟩ .minusFive) .negated

theorem spacedSigns_apart :
    exprTerm .unwired .spacedSigns = .ok (plainTerm .spacedSigns) ∧
      ¬Doubled '-' (plainTerm .spacedSigns).render ∧ ¬Doubled '+' (plainTerm .spacedSigns).render ∧
      Lexes "(-5 - (-5))".toList ["(", "-", "5", "-", "(", "-", "5", ")", ")"] := by
  have emitted : exprTerm .unwired .spacedSigns = .ok (plainTerm .spacedSigns) := rfl
  have apart : ¬Expr.spacedSigns.NegatesMinus := by
    rw [← Expr.doubles_minus_iff]
    decide
  obtain ⟨minus, plus, read⟩ := operators_fuse_at_negated_minus emitted
  exact ⟨emitted, fun doubled => apart (minus.mp doubled), plus, read.mpr apart⟩

/-- The negation of a number that has a minus already. -/
def Expr.twiceNegated : Expr :=
  .unary ⟨[0], {}⟩ .neg (.number ⟨[0, 0], {}⟩ .minusFive)

/-- It is meant as two signs and a number, but is read as a decrement. -/
theorem twiceNegated_fuses :
    exprTerm .unwired .twiceNegated = .ok (plainTerm .twiceNegated) ∧
      Doubled '-' (plainTerm .twiceNegated).render ∧
      (plainTerm .twiceNegated).tokens = ["(", "-", "-", "5", ")"] ∧
      Lexes (plainTerm .twiceNegated).render.toList ["(", "--", "5", ")"] := by
  have decrement : Takes ("--".toList ++ "5)".toList) "--".toList "5)".toList := by
    refine takes_symbol (by decide +kernel) (by decide) fun c first => ?_
    obtain rfl : '5' = c := Option.some.inj first
    decide +kernel
  have five : Lexes ("5".toList ++ (")".toList ++ [])) ["5", ")"] := by
    rw [lexes_digits (by decide) (by decide) (delimited_close []), lexes_close]
    exact .done
  exact ⟨rfl, ⟨['('], ['5', ')'], rfl, rfl⟩, rfl, (lexes_open _ _).mpr (.token decrement five)⟩

end BlockSketch
