import BlockSketch.Proofs.Quotation
import BlockSketch.Proofs.Readback

/-!
Signs that stand twice in a row. `Doubled` says that a character does so outside literals. A
watch passes over a text and rings when that happens; it is armed as long as the character
before was that one. Pieces of a text are passed over one after the other, and between two
pieces only the last character of the first and the first of the second matter.

In the text of an expression a sign is doubled only where it is an operator and the operand
is a number with the same sign.
-/
namespace BlockSketch

open Quotation (Zone scan isInert)

/-- The character stands twice in a row, and not inside a literal. -/
def Doubled (c : Char) (text : String) : Prop :=
  ∃ before after, text.toList = before ++ c :: c :: after ∧ (scan .code before).zone.isQuoted = false

/-! ## Watching a text -/

/-- What is known of a text so far: the zone it ends in, whether the watched character was the
    last one, and whether that has stood twice in a row. -/
structure Watch where
  zone : Zone
  armed : Bool
  rung : Bool
deriving DecidableEq

namespace Watch

def next (c : Char) (watch : Watch) (d : Char) : Watch :=
  let here := d == c && !watch.zone.isQuoted
  ⟨watch.zone.next d, here, watch.rung || (watch.armed && here)⟩

def run (c : Char) (watch : Watch) (text : List Char) : Watch :=
  text.foldl (next c) watch

theorem run_cons (c : Char) (watch : Watch) (d : Char) (text : List Char) :
    run c watch (d :: text) = run c (watch.next c d) text := rfl

theorem run_append (c : Char) (watch : Watch) (first second : List Char) :
    run c watch (first ++ second) = run c (run c watch first) second :=
  List.foldl_append

/-- A watch rings exactly at a character that is doubled. -/
theorem rung_run_iff {c : Char} (other : c ≠ '"') (watch : Watch) (text : List Char) :
    (run c watch text).rung = true ↔
      watch.rung = true ∨ (watch.armed = true ∧ watch.zone.isQuoted = false ∧ text.head? = some c) ∨
        ∃ before after, text = before ++ c :: c :: after ∧ (scan watch.zone before).zone.isQuoted = false := by
  induction text generalizing watch with
  | nil => simp [run]
  | cons d text ih =>
    have unquoted : watch.zone.isQuoted = false → (watch.zone.next c).isQuoted = false := by
      intro outside
      cases zone : watch.zone with
      | literal | escape => simp [zone, Zone.isQuoted] at outside
      | comment => by_cases newline : c = '\n' <;> simp [Zone.next, Zone.isQuoted, newline]
      | code | slash => by_cases slash : c = '/' <;> simp [Zone.next, Zone.isQuoted, other, slash]
    rw [run_cons, ih]
    constructor
    · rintro (rung | ⟨armed, outside, first⟩ | ⟨before, after, rfl, outside⟩)
      · simp only [next, Bool.or_eq_true, Bool.and_eq_true, beq_iff_eq, Bool.not_eq_true'] at rung
        rcases rung with rung | ⟨armed, rfl, outside⟩
        · exact .inl rung
        · exact .inr (.inl ⟨armed, outside, rfl⟩)
      · simp only [next, Bool.and_eq_true, beq_iff_eq, Bool.not_eq_true'] at armed
        obtain ⟨after, rfl⟩ := List.head?_eq_some_iff.mp first
        exact .inr (.inr ⟨[], after, by rw [armed.1]; rfl, armed.2⟩)
      · exact .inr (.inr ⟨d :: before, after, rfl, outside⟩)
    · rintro (rung | ⟨armed, outside, first⟩ | ⟨before, after, split, outside⟩)
      · exact .inl (by simp [next, rung])
      · obtain rfl : d = c := Option.some.inj first
        exact .inl (by simp [next, armed, outside])
      · cases before with
        | nil =>
          obtain ⟨rfl, rfl⟩ := List.cons.inj split
          have outside : watch.zone.isQuoted = false := outside
          exact .inr (.inl ⟨by simp [next, outside], unquoted outside, rfl⟩)
        | cons first before =>
          obtain ⟨rfl, rfl⟩ := List.cons.inj split
          exact .inr (.inr ⟨before, after, rfl, outside⟩)

/-- A watch for the character passes over the text from code to code and is not armed behind
    it. It rings if it was armed and the text begins with the character, and besides if
    `within` says so. -/
def Passes (c : Char) (text : String) (within : Bool) : Prop :=
  ∀ armed rung, Watch.run c ⟨.code, armed, rung⟩ text.toList =
    ⟨.code, false, rung || (armed && text.toList.head? == some c) || within⟩

instance (c : Char) (text : String) (within : Bool) : Decidable (Passes c text within) :=
  inferInstanceAs (Decidable (∀ armed rung, Watch.run c ⟨.code, armed, rung⟩ text.toList =
    ⟨.code, false, rung || (armed && text.toList.head? == some c) || within⟩))

theorem Passes.doubled_iff {c : Char} {text : String} {within : Bool} (passes : Passes c text within)
    (other : c ≠ '"') : Doubled c text ↔ within = true := by
  have rings := Watch.rung_run_iff other ⟨.code, false, false⟩ text.toList
  rw [passes] at rings
  simpa [Doubled] using rings.symm

theorem Passes.ne_nil {c : Char} {text : String} {within : Bool} (passes : Passes c text within) :
    text.toList ≠ [] := by
  intro empty
  have disarmed := congrArg Watch.armed (passes true false)
  rw [empty] at disarmed
  cases disarmed

theorem Passes.append {c : Char} {first second : String} {within more : Bool} (passes : Passes c first within)
    (next : Passes c second more) : Passes c (first ++ second) (within || more) := by
  intro armed rung
  have begins : (first.toList ++ second.toList).head? = first.toList.head? := by
    cases text : first.toList with
    | nil => exact absurd text passes.ne_nil
    | cons d others => rfl
  rw [String.toList_append, run_append, passes, next, begins]
  simp [Bool.or_assoc]

/-! ## Words and numbers -/

theorem run_inert {c : Char} {text : List Char} (inert : text.all isInert = true) (absent : c ∉ text)
    (armed rung : Bool) : run c ⟨.code, armed, rung⟩ text = ⟨.code, armed && text.isEmpty, rung⟩ := by
  induction text generalizing armed with
  | nil => simp [run]
  | cons d text ih =>
    rw [List.all_cons, Bool.and_eq_true] at inert
    obtain ⟨different, absent⟩ := List.ne_and_not_mem_of_not_mem_cons absent
    have plain := (Bool.and_eq_true_iff.mp inert.1).2
    simp only [List.contains_cons, Bool.not_eq_true', Bool.or_eq_false_iff, beq_eq_false_iff_ne] at plain
    have stays : next c ⟨.code, armed, rung⟩ d = ⟨.code, false, rung⟩ := by
      simp [next, Zone.next, different.symm, plain.1, plain.2.1]
    rw [run_cons, stays, ih inert.2 absent]
    simp

/-- The signs that a number can have. -/
def IsSignChar (c : Char) : Prop :=
  c = '+' ∨ c = '-'

theorem IsSignChar.ne_quote {c : Char} (sign : IsSignChar c) : c ≠ '"' := by
  rcases sign with rfl | rfl <;> decide

theorem IsSignChar.not_mem_word {c : Char} (sign : IsSignChar c) {text : List Char}
    (word : text.all isWordChar = true) : c ∉ text := by
  intro member
  have inWord := List.all_eq_true.mp word c member
  rcases sign with rfl | rfl <;> revert inWord <;> decide

theorem passes_word {c : Char} (sign : IsSignChar c) {text : String} (word : text.toList.all isWordChar = true)
    (nonempty : text.toList ≠ []) : Passes c text false := by
  intro armed rung
  have absent := sign.not_mem_word word
  have first : (text.toList.head? == some c) = false := by
    rw [beq_eq_false_iff_ne]
    intro first
    exact absent (List.mem_of_head? first)
  rw [run_inert (Quotation.all_isInert_of_isWordChar word) absent, first]
  simp [nonempty]

theorem passes_name {c : Char} (sign : IsSignChar c) (name : Sketch.Name) : Passes c name.text false := by
  refine passes_word sign (Identifier.all_isWordChar ⟨name.text, name.isIdentifier_text⟩) ?_
  intro empty
  have valid := name.isIdentifier_text
  rw [isIdentifier, empty] at valid
  cases valid

section
variable {c : Char} (sign : IsSignChar c)
include sign

theorem run_digits {digits : List Char} (all : digits.all Char.isDigit = true) (armed rung : Bool) :
    run c ⟨.code, armed, rung⟩ digits = ⟨.code, armed && digits.isEmpty, rung⟩ := by
  have word : digits.all isWordChar = true :=
    List.all_eq_true.mpr fun d member => Scan.isWordChar_of_isDigit (List.all_eq_true.mp all d member)
  exact run_inert (Quotation.all_isInert_of_isWordChar word) (sign.not_mem_word word) armed rung

theorem run_fraction {fraction : List Char} (isFraction : Decimal.IsFraction fraction) (armed rung : Bool) :
    run c ⟨.code, armed, rung⟩ fraction = ⟨.code, armed && fraction.isEmpty, rung⟩ := by
  rcases isFraction with rfl | ⟨digits, rfl, all⟩
  · simp [run]
  · have point : next c ⟨.code, armed, rung⟩ '.' = ⟨.code, false, rung⟩ := by
      rcases sign with rfl | rfl <;> simp [next, Zone.next]
    rw [run_cons, point, run_digits sign all]
    simp

theorem run_sign {text : List Char} (isSign : Decimal.IsSign text) (armed rung : Bool) :
    run c ⟨.code, armed, rung⟩ text =
      ⟨.code, (armed && text.isEmpty) || text.head? == some c, rung || (armed && text.head? == some c)⟩ := by
  rcases isSign with rfl | rfl | rfl
  · simp [run]
  · rcases sign with rfl | rfl <;> cases armed <;> simp [run, next, Zone.next, Zone.isQuoted]
  · rcases sign with rfl | rfl <;> cases armed <;> simp [run, next, Zone.next, Zone.isQuoted]

theorem run_power {power : List Char} (isPower : Decimal.IsPower power) (rung : Bool) :
    run c ⟨.code, false, rung⟩ power = ⟨.code, false, rung⟩ := by
  rcases isPower with rfl | ⟨letter, signs, digits, rfl, isLetter, isSign, some, all⟩
  · rfl
  · have mark : next c ⟨.code, false, rung⟩ letter = ⟨.code, false, rung⟩ := by
      rcases sign with rfl | rfl <;> rcases isLetter with rfl | rfl <;> simp [next, Zone.next]
    rw [run_cons, mark, run_append, run_sign sign isSign, run_digits sign all]
    simp [some]

/-- Behind the sign of a number nothing rings. -/
theorem run_size (spelling : Decimal.Spelling) (armed rung : Bool) :
    run c ⟨.code, armed, rung⟩ spelling.size = ⟨.code, false, rung⟩ := by
  have digits : (spelling.whole.isEmpty && spelling.fraction.isEmpty) = false := by
    rw [← Bool.not_eq_true, Bool.and_eq_true, List.isEmpty_iff, List.isEmpty_iff]
    rintro ⟨noWhole, noFraction⟩
    exact spelling.hasDigit ⟨noWhole, by rw [noFraction]; rfl⟩
  rw [Decimal.Spelling.size, run_append, run_append, run_digits sign spelling.isWhole,
    run_fraction sign spelling.isFraction, Bool.and_assoc, digits, Bool.and_false,
    run_power sign spelling.isPower]

theorem passes_numeral (literal : Numeral) : Passes c literal.text false := by
  intro armed rung
  obtain ⟨spelling, spelled⟩ := literal.exists_spelling
  have first : spelling.size.head? ≠ some c := by
    rcases spelling.size_start with ⟨digit, rest, start, isDigit⟩ | ⟨digit, rest, start, _⟩
    · rw [start]
      rintro ⟨rfl⟩
      rcases sign with rfl | rfl <;> revert isDigit <;> decide
    · rw [start]
      rcases sign with rfl | rfl <;> simp
  have heads : (spelling.text.head? == some c) = (spelling.sign.head? == some c) := by
    rw [Decimal.Spelling.text]
    cases spelling.sign with
    | nil => simp [first]
    | cons d others => rfl
  rw [← spelled, heads, Decimal.Spelling.text, run_append, run_sign sign spelling.isSign, run_size sign]
  simp

end

/-! ## Literals -/

theorem run_quoted (c : Char) (content value : List Char) (rung : Bool) :
    run c ⟨.literal content, false, rung⟩ (value.flatMap Sketch.literalChar) =
      ⟨.literal (content ++ value), false, rung⟩ := by
  induction value generalizing content with
  | nil => simp [run]
  | cons d value ih =>
    have joined : content ++ d :: value = content ++ [d] ++ value := by simp
    have first : run c ⟨.literal content, false, rung⟩ (Sketch.literalChar d) =
        ⟨.literal (content ++ [d]), false, rung⟩ := by
      rcases Scan.literalChar_cases d with ⟨e, escaped, rfl⟩ | ⟨plain, quote, backslash, _⟩
      · rw [escaped]
        simp [run, next, Zone.next, Zone.isQuoted]
      · simp [plain, run, next, Zone.next, Zone.isQuoted, quote, backslash]
    rw [List.flatMap_cons, run_append, first, ih, joined]

theorem passes_literal {c : Char} (sign : IsSignChar c) (value : String) : Passes c (Sketch.literal value) false := by
  intro armed rung
  have lead : run c ⟨.code, armed, rung⟩ "String(\"".toList = ⟨.literal [], false, rung⟩ := by
    rcases sign with rfl | rfl <;> cases armed <;> cases rung <;> decide
  have close (content : List Char) :
      run c ⟨.literal content, false, rung⟩ "\")".toList = ⟨.code, false, rung⟩ := by
    rcases sign with rfl | rfl <;> simp [run, next, Zone.next, Zone.isQuoted]
  have first : ((Sketch.literal value).toList.head? == some c) = false := by
    rcases sign with rfl | rfl <;> simp [Sketch.literal]
  rw [first, Sketch.literal, String.toList_append, String.toList_append, run_append, run_append, lead,
    String.toList_ofList, run_quoted, close]
  simp

end Watch

/-! ## Expressions -/

/-- A sign in front of a number with the same sign. -/
def Expr.meets (c : Char) : Expr → Bool
  | .unary _ op (.number _ literal) => op.symbol.toList == [c] && literal.text.toList.head? == some c
  | _ => false

/-- Whether the sign meets itself somewhere in the expression. -/
def Expr.doubles (c : Char) (expr : Expr) : Bool :=
  expr.parts.any (Expr.meets c)

namespace Sketch
open Watch

section
variable {c : Char} (sign : IsSignChar c)
include sign

theorem passes_portTerm (port : Identifier) (device : Sensor) : Passes c (portTerm port device).render false := by
  have close : Passes c ")" false := by rcases sign with rfl | rfl <;> decide
  cases device with
  | key =>
    have lead : Passes c "digitalRead(" false := by rcases sign with rfl | rfl <;> decide
    exact (lead.append (passes_name sign _)).append close
  | ultrasonic =>
    have lead : Passes c "_getUltrasonicDistance(" false := by rcases sign with rfl | rfl <;> decide
    have comma : Passes c ", " false := by rcases sign with rfl | rfl <;> decide
    exact (((lead.append (passes_name sign _)).append comma).append (passes_name sign _)).append close
  | light =>
    have lead : Passes c "(analogRead(" false := by rcases sign with rfl | rfl <;> decide
    have scale : Passes c ") * 100 / 1023)" false := by rcases sign with rfl | rfl <;> decide
    exact (lead.append (passes_name sign _)).append scale
  | temperature =>
    have lead : Passes c "_getTemperature(" false := by rcases sign with rfl | rfl <;> decide
    exact (lead.append (passes_name sign _)).append close

/-- Blanks keep an operator apart from its operands. -/
theorem passes_binary (op : BinaryOp) {left right : Term} {within more : Bool} (first : Passes c left.render within)
    (second : Passes c right.render more) : Passes c (Term.binary op left right).render (within || more) := by
  have close : Passes c ")" false := by rcases sign with rfl | rfl <;> decide
  by_cases remainder : op = .mod
  · subst remainder
    have lead : Passes c "fmod(" false := by rcases sign with rfl | rfl <;> decide
    have comma : Passes c ", " false := by rcases sign with rfl | rfl <;> decide
    rw [Term.render_mod]
    simpa using (((lead.append first).append comma).append second).append close
  · have lead : Passes c "(" false := by rcases sign with rfl | rfl <;> decide
    have symbol : Passes c (" " ++ op.symbol ++ " ") false := by
      rcases sign with rfl | rfl <;> cases op <;> decide
    have render : (Term.binary op left right).render =
        "(" ++ left.render ++ (" " ++ op.symbol ++ " ") ++ right.render ++ ")" := by
      simp only [Term.render_binary remainder, String.append_assoc]
    rw [render]
    simpa using (((lead.append first).append symbol).append second).append close

/-- A sign in front of an operand is doubled if the operand begins with it. -/
theorem passes_unary (op : UnaryOp) {operand : Term} {within : Bool} (passes : Passes c operand.render within) :
    Passes c (Term.unary op operand).render
      ((op.symbol.toList == [c] && operand.render.toList.head? == some c) || within) := by
  have close : Passes c ")" false := by rcases sign with rfl | rfl <;> decide
  have lead : Passes c "(" false := by rcases sign with rfl | rfl <;> decide
  have symbol (rung : Bool) : run c ⟨.code, false, rung⟩ op.symbol.toList = ⟨.code, op.symbol.toList == [c], rung⟩ := by
    rcases sign with rfl | rfl <;> cases op <;> cases rung <;> decide
  have opened : Passes c ("(" ++ op.symbol ++ operand.render)
      ((op.symbol.toList == [c] && operand.render.toList.head? == some c) || within) := by
    intro armed rung
    have begins : ("(" ++ op.symbol ++ operand.render).toList.head? = "(".toList.head? := by simp
    rw [begins, String.toList_append, String.toList_append, run_append, run_append, lead, symbol, passes]
    simp [Bool.or_assoc]
  show Passes c ("(" ++ op.symbol ++ operand.render ++ ")") _
  simpa using opened.append close

/-- An operand begins with a sign only if it is a number. -/
theorem meets_unary (label : Label) (op : UnaryOp) (operand : Expr) :
    (Expr.unary label op operand).meets c =
      (op.symbol.toList == [c] && (plainTerm operand).render.toList.head? == some c) := by
  rcases number_or_begins operand with ⟨inner, literal, rfl⟩ | ⟨d, known, first⟩
  · rfl
  · have other : ((plainTerm operand).render.toList.head? == some c) = false := by
      rw [first]
      simp only [List.mem_cons, List.not_mem_nil, or_false] at known
      rcases sign with rfl | rfl <;> rcases known with rfl | rfl | rfl | rfl | rfl | rfl <;> decide
    rw [other, Bool.and_false]
    cases operand with
    | number inner literal =>
      show (op.symbol.toList == [c] && (plainTerm (.number inner literal)).render.toList.head? == some c) = false
      rw [other, Bool.and_false]
    | _ => rfl

theorem passes_plainTerm (expr : Expr) : Passes c (plainTerm expr).render (expr.doubles c) := by
  induction expr with
  | number label literal => exact passes_numeral sign literal
  | boolean label value =>
    cases value with
    | true =>
      have word : Passes c "true" false := by rcases sign with rfl | rfl <;> decide
      exact word
    | false =>
      have word : Passes c "false" false := by rcases sign with rfl | rfl <;> decide
      exact word
  | text label value => exact passes_literal sign value
  | var label name type => exact passes_name sign (.var name)
  | binary label op left right ihLeft ihRight =>
    have parts : (Expr.binary label op left right).doubles c = (left.doubles c || right.doubles c) := by
      simp [Expr.doubles, Expr.parts, Expr.meets]
    rw [parts]
    exact passes_binary sign op ihLeft ihRight
  | unary label op operand ih =>
    have parts : (Expr.unary label op operand).doubles c =
        ((Expr.unary label op operand).meets c || operand.doubles c) := rfl
    rw [parts, meets_unary sign]
    exact passes_unary sign op ih
  | sensor label device port => exact passes_portTerm sign port device
  | timer label clock =>
    have lead : Passes c "((int) (millis() - " false := by rcases sign with rfl | rfl <;> decide
    have close : Passes c "))" false := by rcases sign with rfl | rfl <;> decide
    exact (lead.append (passes_name sign _)).append close

end

theorem doubled_iff {c : Char} (sign : IsSignChar c) (expr : Expr) :
    Doubled c (plainTerm expr).render ↔ expr.doubles c = true :=
  (passes_plainTerm sign expr).doubled_iff sign.ne_quote

end Sketch
end BlockSketch
