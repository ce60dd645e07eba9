import BlockSketch.Proofs.Spelling
import BlockSketch.Sketch.Render

/-!
The lexemes of code that matter for names and texts: words, and literals with what they
stand for. Numbers, blanks, brackets and operators are passed over, and so is a comment
up to the end of its line.

Two relations say how a piece of code is scanned. A piece that `Reads` as some lexemes
does so whatever follows; one that `Opens` with them needs something behind it that ends
a word, a number or an operator. Code is put together from such pieces.
-/
namespace BlockSketch.Scan

/-- What code is read for: its words, and the values of its text literals. -/
inductive Lexeme
  | word (text : String)
  | literal (value : String)
deriving DecidableEq, Repr

/-- What the scanner is in the middle of. -/
inductive Mode
  | code
  | word (letters : List Char)
  | number
  | slash
  | comment
  | quoted (content : List Char)
  | escaped (content : List Char)

/-- What a character of code starts. -/
def Mode.start (c : Char) : Mode :=
  if c.isAlpha || c == '_' then word [c]
  else if c.isDigit then number
  else if c == '"' then quoted []
  else if c == '/' then slash
  else code

/-- The character that an escape stands for. -/
def unescape (c : Char) : Char :=
  if c = 'n' then '\n' else c

/-- The lexemes of the rest of a text. A literal without an end is none. -/
def scan : Mode → List Char → List Lexeme
  | .word letters, [] => [.word (String.ofList letters)]
  | _, [] => []
  | .code, c :: rest => scan (.start c) rest
  | .word letters, c :: rest =>
    if isWordChar c then scan (.word (letters ++ [c])) rest
    else .word (String.ofList letters) :: scan (.start c) rest
  | .number, c :: rest => if isWordChar c || c == '.' then scan .number rest else scan (.start c) rest
  | .slash, c :: rest => if c == '/' then scan .comment rest else scan (.start c) rest
  | .comment, c :: rest => if c == '\n' then scan .code rest else scan .comment rest
  | .quoted content, c :: rest =>
    if c = '"' then .literal (String.ofList content) :: scan .code rest
    else if c = '\\' then scan (.escaped content) rest
    else scan (.quoted (content ++ [c])) rest
  | .escaped content, c :: rest => scan (.quoted (content ++ [unescape c])) rest

section
variable (letters content : List Char) (c : Char) (rest : List Char)

theorem scan_code_nil : scan .code [] = [] := rfl

theorem scan_code_cons : scan .code (c :: rest) = scan (.start c) rest := rfl

theorem scan_word_nil : scan (.word letters) [] = [.word (String.ofList letters)] := rfl

theorem scan_word_cons : scan (.word letters) (c :: rest) =
    if isWordChar c then scan (.word (letters ++ [c])) rest
    else .word (String.ofList letters) :: scan (.start c) rest := rfl

theorem scan_number_cons : scan .number (c :: rest) =
    if isWordChar c || c == '.' then scan .number rest else scan (.start c) rest := rfl

theorem scan_quoted_cons : scan (.quoted content) (c :: rest) =
    if c = '"' then .literal (String.ofList content) :: scan .code rest
    else if c = '\\' then scan (.escaped content) rest
    else scan (.quoted (content ++ [c])) rest := rfl

end

/-- The lexemes of a text. -/
def lexemes (text : String) : List Lexeme :=
  scan .code text.toList

/-! ## Pieces of code -/

/-- The character goes on with neither a word nor a number nor a slash before it. -/
def isEnd (c : Char) : Bool :=
  !(isWordChar c || c == '.' || c == '/')

/-- The text has such a character in front. -/
def startsWithEnd (text : List Char) : Bool :=
  match text with
  | [] => false
  | c :: _ => isEnd c

def Reads (text : String) (found : List Lexeme) : Prop :=
  ∀ rest, scan .code (text.toList ++ rest) = found ++ scan .code rest

def Opens (text : String) (found : List Lexeme) : Prop :=
  ∀ rest, (rest = [] ∨ startsWithEnd rest = true) →
    scan .code (text.toList ++ rest) = found ++ scan .code rest

variable {first second : String} {found more : List Lexeme}

theorem Reads.lexemes_eq (reads : Reads first found) : lexemes first = found := by
  have all := reads []
  rw [List.append_nil] at all
  rw [lexemes, all]
  exact List.append_nil found

theorem Reads.opens (reads : Reads first found) : Opens first found :=
  fun rest _ => reads rest

theorem Reads.append (reads : Reads first found) (next : Reads second more) :
    Reads (first ++ second) (found ++ more) := by
  intro rest
  rw [String.toList_append, List.append_assoc, reads, next, List.append_assoc]

theorem Reads.appendOpens (reads : Reads first found) (next : Opens second more) :
    Opens (first ++ second) (found ++ more) := by
  intro rest ends
  rw [String.toList_append, List.append_assoc, reads, next rest ends, List.append_assoc]

theorem startsWithEnd_append {text : List Char} (ends : startsWithEnd text = true) (rest : List Char) :
    startsWithEnd (text ++ rest) = true := by
  cases text with
  | nil => cases ends
  | cons c others => exact ends

/-- Punctuation ends what stands before it. -/
theorem Opens.close (opens : Opens first found) (next : Reads second [])
    (ends : startsWithEnd second.toList = true) : Reads (first ++ second) found := by
  intro rest
  rw [String.toList_append, List.append_assoc, opens _ (.inr (startsWithEnd_append ends rest)), next]
  rfl

/-- Lines are scanned one after the other. -/
theorem Reads.intercalate_lines {lines : List String} (each : ∀ line ∈ lines, Reads line (lexemes line)) :
    Reads ("\n".intercalate lines) (lines.flatMap lexemes) := by
  induction lines with
  | nil => exact fun _ => rfl
  | cons line rest ih =>
    obtain ⟨reads, later⟩ := List.forall_mem_cons.mp each
    cases rest with
    | nil =>
      have alone : "\n".intercalate [line] = line := rfl
      simpa [alone] using reads
    | cons next others =>
      have newline : Reads "\n" [] := fun _ => rfl
      rw [String.intercalate_cons_cons]
      simpa using (reads.append newline).append (ih later)

/-! ## Words -/

theorem isWordChar_of_isLetter {c : Char} (letter : (c.isAlpha || c == '_') = true) : isWordChar c = true := by
  rcases Bool.or_eq_true_iff.mp letter with letter | line
  · simp [isWordChar, Char.isAlphanum, letter]
  · simp [isWordChar, line]

theorem isWordChar_of_isDigit {c : Char} (digit : c.isDigit = true) : isWordChar c = true := by
  simp [isWordChar, Char.isAlphanum, digit]

theorem ne_of_isWordChar {c other : Char} (word : isWordChar c = true) (noWord : isWordChar other = false) :
    c ≠ other := by
  rintro rfl
  rw [word] at noWord
  cases noWord

theorem scan_word (letters : List Char) {text rest : List Char} (word : text.all isWordChar = true)
    (ends : rest = [] ∨ startsWithEnd rest = true ∨ ∃ others, rest = '.' :: others) :
    scan (.word letters) (text ++ rest) =
      .word (String.ofList (letters ++ text)) :: scan .code rest := by
  induction text generalizing letters with
  | nil =>
    cases rest with
    | nil => simp [scan_word_nil, scan_code_nil]
    | cons c others =>
      have stops : isWordChar c = false := by
        rcases ends with impossible | stops | ⟨_, same⟩
        · cases impossible
        · simp only [startsWithEnd, isEnd, Bool.not_eq_true', Bool.or_eq_false_iff] at stops
          exact stops.1.1
        · cases same
          decide
      simp [scan_word_cons, scan_code_cons, stops]
  | cons c text ih =>
    rw [List.all_cons, Bool.and_eq_true] at word
    rw [List.cons_append, scan_word_cons, if_pos word.1, ih (letters ++ [c]) word.2, List.append_assoc]
    rfl

/-- A name is one word, also in front of a member. -/
theorem scan_identifier {text : String} (valid : isIdentifier text = true) {rest : List Char}
    (ends : rest = [] ∨ startsWithEnd rest = true ∨ ∃ others, rest = '.' :: others) :
    scan .code (text.toList ++ rest) = .word text :: scan .code rest := by
  unfold isIdentifier at valid
  cases split : text.toList with
  | nil => simp [split] at valid
  | cons c others =>
    rw [split, Bool.and_eq_true] at valid
    have started : Mode.start c = .word [c] := if_pos valid.1
    rw [List.cons_append, scan_code_cons, started, scan_word [c] valid.2 ends, List.singleton_append, ← split,
      String.ofList_toList]

theorem opens_identifier {text : String} (valid : isIdentifier text = true) :
    Opens text [.word text] := by
  intro rest ends
  exact scan_identifier valid (ends.imp_right .inl)

/-- An object and what is asked of it. -/
theorem reads_member {text member : String} (valid : isIdentifier text = true)
    (reads : Reads member found) (dot : member.toList.head? = some '.') :
    Reads (text ++ member) (.word text :: found) := by
  intro rest
  obtain ⟨others, starts⟩ := List.head?_eq_some_iff.mp dot
  rw [String.toList_append, List.append_assoc, scan_identifier valid ?_, reads]
  · rfl
  · exact .inr (.inr ⟨others ++ rest, by rw [starts]; rfl⟩)

/-! ## Literals -/

/-- Inside a literal a character is escaped or stands for itself. -/
theorem literalChar_cases (c : Char) :
    (∃ d, Sketch.literalChar c = ['\\', d] ∧ unescape d = c) ∨
      Sketch.literalChar c = [c] ∧ c ≠ '"' ∧ c ≠ '\\' ∧ c ≠ '\n' := by
  unfold Sketch.literalChar
  split
  · next quote => exact .inl ⟨'"', rfl, quote.symm⟩
  · next noQuote =>
    split
    · next backslash => exact .inl ⟨'\\', rfl, backslash.symm⟩
    · next noBackslash =>
      split
      · next newline => exact .inl ⟨'n', rfl, newline.symm⟩
      · next noNewline => exact .inr ⟨rfl, noQuote, noBackslash, noNewline⟩

theorem scan_quoted (content value rest : List Char) :
    scan (.quoted content) (value.flatMap Sketch.literalChar ++ '"' :: rest) =
      .literal (String.ofList (content ++ value)) :: scan .code rest := by
  induction value generalizing content with
  | nil => simp [scan_quoted_cons]
  | cons c value ih =>
    rw [List.flatMap_cons, List.append_assoc]
    have joined : content ++ c :: value = content ++ [c] ++ value := by simp
    rw [joined, ← ih (content ++ [c])]
    rcases literalChar_cases c with ⟨d, escaped, rfl⟩ | ⟨plain, quote, backslash, _⟩
    · rw [escaped]
      rfl
    · simp [plain, quote, backslash, scan_quoted_cons]

/-- A text as a literal stands for the text. -/
theorem reads_literal (value : String) :
    Reads (Sketch.literal value) [.word "String", .literal value] := by
  intro rest
  have quoted := scan_quoted [] value.toList (')' :: rest)
  rw [List.nil_append, String.ofList_toList] at quoted
  have split : (Sketch.literal value).toList ++ rest =
      "String(\"".toList ++ (value.toList.flatMap Sketch.literalChar ++ '"' :: ')' :: rest) := by
    simp [Sketch.literal, String.toList_append, String.toList_ofList]
  rw [split]
  show .word "String" ::
    scan (.quoted []) (value.toList.flatMap Sketch.literalChar ++ '"' :: ')' :: rest) = _
  rw [quoted]
  rfl

/-! ## Numbers -/

theorem start_of_isDigit {c : Char} (digit : c.isDigit = true) : Mode.start c = .number := by
  have high : c.val.toNat ≤ 57 := by
    simp only [Char.isDigit, Bool.and_eq_true, decide_eq_true_eq, UInt32.le_iff_toNat_le] at digit
    exact digit.2
  have noUpper : c.isUpper = false := by
    refine decide_eq_false fun letter => ?_
    have low : 65 ≤ c.val.toNat := UInt32.le_iff_toNat_le.mp letter.1
    omega
  have noLower : c.isLower = false := by
    refine Bool.and_eq_false_iff.mpr (.inl (decide_eq_false fun letter => ?_))
    have low : 97 ≤ c.val.toNat := UInt32.le_iff_toNat_le.mp letter
    omega
  have noLetter : c.isAlpha = false := Bool.or_eq_false_iff.mpr ⟨noUpper, noLower⟩
  have noLine : (c == '_') = false := by
    rw [beq_eq_false_iff_ne]
    rintro rfl
    revert digit
    decide
  simp [Mode.start, noLetter, noLine, digit]

theorem scan_digits {digits : List Char} (all : digits.all Char.isDigit = true) (rest : List Char) :
    scan .number (digits ++ rest) = scan .number rest := by
  induction digits with
  | nil => rfl
  | cons c digits ih =>
    rw [List.all_cons, Bool.and_eq_true] at all
    rw [List.cons_append, scan_number_cons, isWordChar_of_isDigit all.1, Bool.true_or, if_pos rfl, ih all.2]

theorem scan_number {digits : List Char} (all : digits.all Char.isDigit = true) (some : digits ≠ [])
    (rest : List Char) : scan .code (digits ++ rest) = scan .number rest := by
  cases digits with
  | nil => exact absurd rfl some
  | cons c digits =>
    rw [List.all_cons, Bool.and_eq_true] at all
    rw [List.cons_append, scan_code_cons, start_of_isDigit all.1, scan_digits all.2]

theorem scan_number_end {rest : List Char} (ends : rest = [] ∨ startsWithEnd rest = true) :
    scan .number rest = scan .code rest := by
  cases rest with
  | nil => rfl
  | cons c others =>
    have stops := ends.resolve_left (List.cons_ne_nil _ _)
    simp only [startsWithEnd, isEnd, Bool.not_eq_true', Bool.or_eq_false_iff] at stops
    rw [scan_number_cons, scan_code_cons, stops.1.1, stops.1.2]
    rfl

theorem scan_sign {sign : List Char} (isSign : Decimal.IsSign sign) (rest : List Char) :
    scan .code (sign ++ rest) = scan .code rest := by
  rcases isSign with rfl | rfl | rfl <;> rfl

/-- The power of ten of a number goes on with the number. -/
theorem scan_power {power rest : List Char} (isPower : Decimal.IsPower power)
    (ends : rest = [] ∨ startsWithEnd rest = true) : scan .number (power ++ rest) = scan .code rest := by
  rcases isPower with rfl | ⟨letter, sign, digits, rfl, isLetter, isSign, some, all⟩
  · exact scan_number_end ends
  · have inWord : isWordChar letter = true := by rcases isLetter with rfl | rfl <;> decide
    have size : scan .number (sign ++ (digits ++ rest)) = scan .number rest := by
      rcases isSign with rfl | rfl | rfl
      · exact scan_digits all rest
      · exact scan_number all some rest
      · exact scan_number all some rest
    rw [List.cons_append, scan_number_cons, inWord, Bool.true_or, if_pos rfl, List.append_assoc, size]
    exact scan_number_end ends

/-- The digits of a number up to its power of ten. -/
theorem scan_mantissa (spelling : Decimal.Spelling) (rest : List Char) :
    scan .code (spelling.whole ++ (spelling.fraction ++ rest)) = scan .number rest := by
  rcases spelling.isFraction with missing | ⟨digits, fraction, all⟩
  · have some : spelling.whole ≠ [] := fun none => spelling.hasDigit ⟨none, by rw [missing]; rfl⟩
    rw [missing]
    exact scan_number spelling.isWhole some rest
  · rw [fraction]
    by_cases none : spelling.whole = []
    · have some : digits ≠ [] := fun noDigits => spelling.hasDigit ⟨none, by rw [fraction]; exact noDigits⟩
      rw [none]
      exact scan_number all some rest
    · rw [scan_number spelling.isWhole none]
      exact scan_digits all rest

/-- A number is passed over. -/
theorem opens_numeral (literal : Numeral) : Opens literal.text [] := by
  intro rest ends
  obtain ⟨spelling, spelled⟩ := literal.exists_spelling
  rw [← spelled, Decimal.Spelling.text, Decimal.Spelling.size, List.append_assoc, List.append_assoc,
    List.append_assoc, scan_sign spelling.isSign, scan_mantissa, scan_power spelling.isPower ends]
  rfl

end BlockSketch.Scan
