import BlockSketch.Proofs.Lexeme

/-!
What is code in a text and what is quoted. A scanner passes over a text and knows in which
zone it is: in code, in a comment up to the end of the line, or in a literal, where a
backslash escapes the next character and the first quote that is not escaped ends it. It
keeps the characters outside literals, and the values of the literals.

A piece of a text is `Enclosed` if the scanner enters and leaves it in code, and all its
characters outside literals are plain, with brackets that go from one nesting to another.
Pieces that fit together make larger pieces.
-/
namespace BlockSketch.Quotation

open Scan (unescape)

/-! ## Zones -/

/-- Where the scanner is. A slash may begin a comment. -/
inductive Zone
  | code
  | slash
  | comment
  | literal (content : List Char)
  | escape (content : List Char)
deriving DecidableEq, Repr

namespace Zone

/-- Where the scanner is after one more character. -/
def next : Zone → Char → Zone
  | code, c => if c = '"' then literal [] else if c = '/' then slash else code
  | slash, c => if c = '"' then literal [] else if c = '/' then comment else code
  | comment, c => if c = '\n' then code else comment
  | literal content, c =>
    if c = '"' then code else if c = '\\' then escape content else literal (content ++ [c])
  | escape content, c => literal (content ++ [unescape c])

def isQuoted : Zone → Bool
  | literal _ => true
  | escape _ => true
  | _ => false

/-- The character if it is not part of a literal; the quotes around one are. -/
def outside (zone : Zone) (c : Char) : List Char :=
  if zone.isQuoted || (zone.next c).isQuoted then [] else [c]

/-- The value of the literal that the character ends. -/
def ended : Zone → Char → List String
  | literal content, c => if c = '"' then [String.ofList content] else []
  | _, _ => []

end Zone

/-- What the scanner knows of a text: the zone in which it ends, the characters outside
    literals, and the values of the literals. -/
structure Reading where
  zone : Zone
  code : List Char
  literals : List String
deriving DecidableEq, Repr

/-- Reads the characters from a zone on. -/
def scan : Zone → List Char → Reading
  | zone, [] => ⟨zone, [], []⟩
  | zone, c :: rest =>
    let later := scan (zone.next c) rest
    ⟨later.zone, zone.outside c ++ later.code, zone.ended c ++ later.literals⟩

/-- Reads a whole text. -/
def read (text : String) : Reading :=
  scan .code text.toList

theorem scan_append (zone : Zone) (first rest : List Char) :
    scan zone (first ++ rest) =
      ⟨(scan (scan zone first).zone rest).zone,
        (scan zone first).code ++ (scan (scan zone first).zone rest).code,
        (scan zone first).literals ++ (scan (scan zone first).zone rest).literals⟩ := by
  induction first generalizing zone with
  | nil => rfl
  | cons c first ih =>
    rw [List.cons_append, scan, ih]
    simp [scan]

/-! ## Brackets -/

/-- The brackets that have to close after the text, the next one first, if those of the text
    match and these had to close before it. -/
def closing : List Char → List Char → Option (List Char)
  | open_, [] => some open_
  | open_, c :: rest =>
    if c = '(' then closing (')' :: open_) rest
    else if c = '\x7b' then closing ('\x7d' :: open_) rest
    else if c = ')' ∨ c = '\x7d' then
      match open_ with
      | [] => none
      | expected :: outer => if expected = c then closing outer rest else none
    else closing open_ rest

/-- Round and curly brackets are properly nested, and all of them are closed. -/
def Balanced (text : List Char) : Prop :=
  closing [] text = some []

instance (text : List Char) : Decidable (Balanced text) :=
  inferInstanceAs (Decidable (closing [] text = some []))

theorem closing_append (open_ first rest : List Char) :
    closing open_ (first ++ rest) = (closing open_ first).bind fun after => closing after rest := by
  induction first generalizing open_ with
  | nil => rfl
  | cons c first ih =>
    simp only [List.cons_append, closing]
    split
    · exact ih _
    · split
      · exact ih _
      · split
        · split
          · rfl
          · split
            · exact ih _
            · rfl
        · exact ih _

/-- Brackets around the text do not matter. -/
theorem closing_frame {open_ after text : List Char} (closes : closing open_ text = some after)
    (outer : List Char) : closing (open_ ++ outer) text = some (after ++ outer) := by
  induction text generalizing open_ with
  | nil =>
    cases closes
    rfl
  | cons c rest ih =>
    simp only [closing] at closes ⊢
    split at closes
    · next opens => rw [if_pos opens]; exact ih closes
    · next noRound =>
      rw [if_neg noRound]
      split at closes
      · next opens => rw [if_pos opens]; exact ih closes
      · next noCurly =>
        rw [if_neg noCurly]
        split at closes
        · next isClosing =>
          rw [if_pos isClosing]
          split at closes
          · cases closes
          · next expected inner =>
            split at closes
            · next same => simpa [same] using ih closes
            · cases closes
        · next other => rw [if_neg other]; exact ih closes

/-! ## Pieces of a text -/

/-- Printable characters of ASCII, and the end of a line. -/
def isPlain (c : Char) : Bool :=
  (32 ≤ c.toNat && c.toNat ≤ 126) || c == '\n'

/-- The text leads from code to code. Its characters outside literals are plain, and their
    brackets lead from one nesting to the other, both with the bracket that closes next in
    front. The literals have these values. -/
structure Enclosed (before after : List Char) (text : String) (values : List String) : Prop where
  zone : (read text).zone = .code
  plain : (read text).code.all isPlain = true
  closes : closing before (read text).code = some after
  literals : (read text).literals = values

instance (before after : List Char) (text : String) (values : List String) :
    Decidable (Enclosed before after text values) :=
  decidable_of_iff ((read text).zone = .code ∧ (read text).code.all isPlain = true ∧
      closing before (read text).code = some after ∧ (read text).literals = values)
    ⟨fun ⟨zone, plain, closes, literals⟩ => ⟨zone, plain, closes, literals⟩,
      fun ⟨zone, plain, closes, literals⟩ => ⟨zone, plain, closes, literals⟩⟩

section
variable {before between after : List Char} {first second : String} {values others : List String}

theorem Enclosed.append (enclosed : Enclosed before between first values)
    (next : Enclosed between after second others) :
    Enclosed before after (first ++ second) (values ++ others) := by
  have joined : read (first ++ second) = ⟨(read second).zone, (read first).code ++ (read second).code,
      (read first).literals ++ (read second).literals⟩ := by
    have reached : (scan .code first.toList).zone = .code := enclosed.zone
    rw [read, String.toList_append, scan_append, reached]
    rfl
  refine ⟨?_, ?_, ?_, ?_⟩
  · rw [joined]
    exact next.zone
  · rw [joined, List.all_append, enclosed.plain, next.plain]
    rfl
  · rw [joined, closing_append, enclosed.closes]
    exact next.closes
  · rw [joined, enclosed.literals, next.literals]

/-- A piece may stand inside brackets. -/
theorem Enclosed.frame (enclosed : Enclosed before after first values) (outer : List Char) :
    Enclosed (before ++ outer) (after ++ outer) first values :=
  ⟨enclosed.zone, enclosed.plain, closing_frame enclosed.closes outer, enclosed.literals⟩

theorem Enclosed.inside (enclosed : Enclosed [] [] first values) (outer : List Char) :
    Enclosed outer outer first values :=
  enclosed.frame outer

end

/-! ## Words and numbers -/

/-- A plain character that neither begins a literal or a comment nor is a bracket. -/
def isInert (c : Char) : Bool :=
  isPlain c && !(['"', '/', '(', ')', '\x7b', '\x7d'].contains c)

theorem scan_inert {text : List Char} (inert : text.all isInert = true) :
    scan .code text = ⟨.code, text, []⟩ := by
  induction text with
  | nil => rfl
  | cons c text ih =>
    rw [List.all_cons, Bool.and_eq_true] at inert
    have other := (Bool.and_eq_true_iff.mp inert.1).2
    simp only [List.contains_cons, Bool.not_eq_true', Bool.or_eq_false_iff, beq_eq_false_iff_ne] at other
    rw [scan]
    simp [Zone.next, Zone.outside, Zone.ended, Zone.isQuoted, other.1, other.2.1, ih inert.2]

theorem closing_inert {text : List Char} (inert : text.all isInert = true) (open_ : List Char) :
    closing open_ text = some open_ := by
  induction text with
  | nil => rfl
  | cons c text ih =>
    rw [List.all_cons, Bool.and_eq_true] at inert
    have other := (Bool.and_eq_true_iff.mp inert.1).2
    simp only [List.contains_cons, Bool.not_eq_true', Bool.or_eq_false_iff, beq_eq_false_iff_ne] at other
    simp [closing, other, ih inert.2]

theorem Enclosed.inert {text : String} (inert : text.toList.all isInert = true) : Enclosed [] [] text [] := by
  have whole : read text = ⟨.code, text.toList, []⟩ := scan_inert inert
  refine ⟨?_, ?_, ?_, ?_⟩
  · rw [whole]
  · rw [whole, List.all_eq_true]
    intro c member
    exact (Bool.and_eq_true_iff.mp (List.all_eq_true.mp inert c member)).1
  · rw [whole]
    exact closing_inert inert []
  · rw [whole]

theorem isPlain_of_isWordChar {c : Char} (word : isWordChar c = true) : isPlain c = true := by
  have within (low high : Char) (above : low.val ≤ c.val) (below : c.val ≤ high.val)
      (fits : 48 ≤ low.toNat ∧ high.toNat ≤ 122) : 48 ≤ c.toNat ∧ c.toNat ≤ 122 :=
    ⟨Nat.le_trans fits.1 (UInt32.le_iff_toNat_le.mp above), Nat.le_trans (UInt32.le_iff_toNat_le.mp below) fits.2⟩
  have range : 48 ≤ c.toNat ∧ c.toNat ≤ 122 := by
    rcases Bool.or_eq_true_iff.mp word with alphanumeric | line
    · rcases Bool.or_eq_true_iff.mp alphanumeric with letter | digit
      · rcases Bool.or_eq_true_iff.mp letter with upper | lower
        · have bounds : 'A'.val ≤ c.val ∧ c.val ≤ 'Z'.val := of_decide_eq_true upper
          exact within 'A' 'Z' bounds.1 bounds.2 (by decide)
        · obtain ⟨above, below⟩ := Bool.and_eq_true_iff.mp lower
          exact within 'a' 'z' (of_decide_eq_true above) (of_decide_eq_true below) (by decide)
      · obtain ⟨above, below⟩ := Bool.and_eq_true_iff.mp digit
        exact within '0' '9' (of_decide_eq_true above) (of_decide_eq_true below) (by decide)
    · obtain rfl := eq_of_beq line
      decide
  simp only [isPlain, Bool.or_eq_true, Bool.and_eq_true, decide_eq_true_eq]
  omega

theorem isInert_of_isWordChar {c : Char} (word : isWordChar c = true) : isInert c = true := by
  have different (other : Char) (noWord : isWordChar other = false) : c ≠ other :=
    Scan.ne_of_isWordChar word noWord
  simp [isInert, isPlain_of_isWordChar word, different '"' (by decide), different '/' (by decide),
    different '(' (by decide), different ')' (by decide), different '\x7b' (by decide),
    different '\x7d' (by decide)]

theorem all_isInert_of_isWordChar {text : List Char} (word : text.all isWordChar = true) :
    text.all isInert = true :=
  List.all_eq_true.mpr fun c member => isInert_of_isWordChar (List.all_eq_true.mp word c member)

theorem enclosed_word {text : String} (word : text.toList.all isWordChar = true) : Enclosed [] [] text [] :=
  .inert (all_isInert_of_isWordChar word)

theorem enclosed_name (name : Sketch.Name) : Enclosed [] [] name.text [] :=
  enclosed_word (Identifier.all_isWordChar ⟨name.text, name.isIdentifier_text⟩)

theorem isInert_of_isNumeralChar {c : Char} (numeral : isNumeralChar c = true) : isInert c = true := by
  rcases Bool.or_eq_true_iff.mp numeral with digit | mark
  · exact isInert_of_isWordChar (Scan.isWordChar_of_isDigit digit)
  · have marks : ['.', 'e', 'E', '+', '-'].all isInert := by decide
    exact List.all_eq_true.mp marks c (List.contains_iff_mem.mp mark)

/-- A number has no character that matters. -/
theorem enclosed_numeral (literal : Numeral) : Enclosed [] [] literal.text [] := by
  obtain ⟨spelling, spelled⟩ := literal.exists_spelling
  have all := spelling.all_isNumeralChar
  rw [spelled, List.all_eq_true] at all
  exact .inert (List.all_eq_true.mpr fun c member => isInert_of_isNumeralChar (all c member))

/-! ## Literals -/

/-- What stands in a literal is read back as it was. -/
theorem scan_content (content value rest : List Char) :
    scan (.literal content) (value.flatMap Sketch.literalChar ++ rest) =
      scan (.literal (content ++ value)) rest := by
  induction value generalizing content with
  | nil => simp
  | cons c value ih =>
    have step : scan (.literal content) (Sketch.literalChar c ++ (value.flatMap Sketch.literalChar ++ rest)) =
        scan (.literal (content ++ [c])) (value.flatMap Sketch.literalChar ++ rest) := by
      rcases Scan.literalChar_cases c with ⟨d, escaped, rfl⟩ | ⟨plain, noQuote, noBackslash, _⟩
      · rw [escaped]
        rfl
      · simp [plain, scan, Zone.next, Zone.outside, Zone.ended, Zone.isQuoted, noQuote, noBackslash]
    rw [List.flatMap_cons, List.append_assoc, step, ih, List.append_assoc]
    rfl

theorem enclosed_literal (value : String) : Enclosed [] [] (Sketch.literal value) [value] := by
  have chars : (Sketch.literal value).toList =
      "String(\"".toList ++ (value.toList.flatMap Sketch.literalChar ++ "\")".toList) := by
    simp [Sketch.literal]
  have opened : scan .code "String(\"".toList = ⟨.literal [], "String(".toList, []⟩ := by decide
  have closed : scan (.literal []) (value.toList.flatMap Sketch.literalChar ++ "\")".toList) =
      ⟨.code, ")".toList, [value]⟩ := by
    rw [scan_content]
    simp [scan, Zone.next, Zone.outside, Zone.ended, Zone.isQuoted]
  have whole : read (Sketch.literal value) = ⟨.code, "String()".toList, [value]⟩ := by
    rw [read, chars, scan_append, opened, closed]
    rfl
  refine ⟨?_, ?_, ?_, ?_⟩
  · rw [whole]
  · rw [whole]
    show "String()".toList.all isPlain = true
    decide
  · rw [whole]
    show closing [] "String()".toList = some []
    decide
  · rw [whole]

end BlockSketch.Quotation
