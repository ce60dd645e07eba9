import BlockSketch.Proofs.Readback

/-!
How code is cut into tokens: words, numbers, literals and symbols. Reading goes from the left
and always takes the longest token that the text begins with (`Takes`); blanks are passed over.
So where two operators touch they may be read as one.

A token is the longest if it cannot go on with what follows. For symbols this is settled by the
characters that come next in symbols that begin alike (`followers`).
-/
namespace BlockSketch.Munch

/-! ## Tokens -/

def isWord : List Char → Bool
  | [] => false
  | c :: rest => (c.isAlpha || c == '_') && rest.all isWordChar

/-- Whether the text goes on with a number that ends in the given character. A sign belongs
    to it after the letter of a power. -/
def numberGoesOn : Char → List Char → Bool
  | _, [] => true
  | last, c :: rest =>
    (isWordChar c || c == '.' || (['+', '-'].contains c && ['e', 'E', 'p', 'P'].contains last)) && numberGoesOn c rest

def isNumber : List Char → Bool
  | '.' :: c :: rest => c.isDigit && numberGoesOn c rest
  | c :: rest => c.isDigit && numberGoesOn c rest
  | [] => false

/-- The quote that closes a literal is the last character. -/
def closesLiteral : List Char → Bool
  | [] => false
  | '"' :: rest => rest.isEmpty
  | '\n' :: _ => false
  | '\\' :: _ :: rest => closesLiteral rest
  | _ :: rest => closesLiteral rest

def isLiteral : List Char → Bool
  | '"' :: rest => closesLiteral rest
  | _ => false

/-- Brackets, operators and all else that is no word. The beginnings of comments are among
    them. -/
def symbols : List (List Char) :=
  [['('], [')'], ['['], [']'], ['\x7b'], ['\x7d'], [';'], [','], [':'], [':', ':'], ['?'], ['~'], ['.'],
   ['.', '.', '.'], ['.', '*'], ['-', '>'], ['-', '>', '*'], ['!'], ['!', '='], ['+'], ['+', '+'], ['+', '='],
   ['-'], ['-', '-'], ['-', '='], ['*'], ['*', '='], ['/'], ['/', '='], ['/', '/'], ['/', '*'], ['%'],
   ['%', '='], ['^'], ['^', '='], ['&'], ['&', '&'], ['&', '='], ['|'], ['|', '|'], ['|', '='], ['='],
   ['=', '='], ['<'], ['<', '='], ['<', '=', '>'], ['<', '<'], ['<', '<', '='], ['>'], ['>', '='], ['>', '>'],
   ['>', '>', '='], ['#'], ['#', '#'], ['<', ':'], [':', '>'], ['<', '%'], ['%', '>'], ['%', ':'],
   ['%', ':', '%', ':']]

def isSymbol (text : List Char) : Bool :=
  symbols.contains text

def isToken (text : List Char) : Bool :=
  isWord text || isNumber text || isLiteral text || isSymbol text

/-- The characters that come next in symbols that begin like this. -/
def followers (front : List Char) : List Char :=
  symbols.filterMap fun symbol => (front.isPrefixOf? symbol).bind List.head?

theorem mem_followers {front more : List Char} {c : Char} (symbol : isSymbol (front ++ c :: more) = true) :
    c ∈ followers front := by
  refine List.mem_filterMap.mpr ⟨_, List.contains_iff_mem.mp symbol, ?_⟩
  rw [List.isPrefixOf?_eq_some_iff_append_eq.mpr rfl]
  rfl

/-! ## How tokens begin -/

variable {text token rest other : List Char} {tokens : List String}

theorem isSymbol_cons {c : Char} (symbol : isSymbol (c :: rest) = true) :
    isWordChar c = false ∧ c ≠ '"' ∧ c ≠ ' ' := by
  have heads : (followers []).all fun c => !isWordChar c && c != '"' && c != ' ' := by decide +kernel
  have first := List.all_eq_true.mp heads c (mem_followers symbol)
  simpa [and_assoc] using first

theorem isLetter_of_isDigit {c : Char} (digit : c.isDigit = true) : (c.isAlpha || c == '_') = false := by
  refine Bool.eq_false_iff.mpr fun letter => ?_
  have number := Scan.start_of_isDigit digit
  rw [Scan.Mode.start, if_pos letter] at number
  cases number

theorem isNumber_cons {c : Char} (noPoint : c ≠ '.') :
    isNumber (c :: rest) = (c.isDigit && numberGoesOn c rest) := by
  unfold isNumber
  split
  · next same => exact absurd (List.cons.inj same).1 noPoint
  · next same =>
    obtain ⟨rfl, rfl⟩ := List.cons.inj same
    rfl
  · next same => cases same

theorem isLiteral_cons {c : Char} (noQuote : c ≠ '"') : isLiteral (c :: rest) = false := by
  unfold isLiteral
  split
  · next same => exact absurd (List.cons.inj same).1 noQuote
  · rfl

/-- What begins with a letter or a digit is a word or a number, or no token. -/
theorem isToken_of_isWordChar {c : Char} (word : isWordChar c = true) :
    isToken (c :: rest) = (isWord (c :: rest) || (c.isDigit && numberGoesOn c rest)) := by
  have noSymbol : isSymbol (c :: rest) = false := by
    refine Bool.eq_false_iff.mpr fun symbol => ?_
    rw [(isSymbol_cons symbol).1] at word
    cases word
  rw [isToken, isNumber_cons (Scan.ne_of_isWordChar word (by decide)), isLiteral_cons (Scan.ne_of_isWordChar word (by decide)),
    noSymbol, Bool.or_false, Bool.or_false]

/-- What begins with no letter, digit, quote or point is a symbol or no token. -/
theorem isToken_of_mark {c : Char} (noWord : isWordChar c = false) (noQuote : c ≠ '"') (noPoint : c ≠ '.') :
    isToken (c :: rest) = isSymbol (c :: rest) := by
  have noLetter : (c.isAlpha || c == '_') = false :=
    Bool.eq_false_iff.mpr fun letter => Bool.eq_false_iff.mp noWord (Scan.isWordChar_of_isLetter letter)
  have noDigit : c.isDigit = false :=
    Bool.eq_false_iff.mpr fun digit => Bool.eq_false_iff.mp noWord (Scan.isWordChar_of_isDigit digit)
  rw [isToken, isWord, noLetter, isNumber_cons noPoint, noDigit, isLiteral_cons noQuote]
  rfl

theorem isToken_blank (rest : List Char) : isToken (' ' :: rest) = false := by
  rw [isToken_of_mark (by decide) (by decide) (by decide)]
  exact Bool.eq_false_iff.mpr fun symbol => (isSymbol_cons symbol).2.2 rfl

/-! ## Longest tokens -/

/-- The text begins with the token and with none that is longer. -/
structure Takes (text token rest : List Char) : Prop where
  split : text = token ++ rest
  isToken : isToken token = true
  longest : ∀ longer, Munch.isToken longer = true → longer <+: text → longer.length ≤ token.length

/-- The text is read as these tokens. -/
inductive Lexes : List Char → List String → Prop
  | done : Lexes [] []
  | blank {rest : List Char} {tokens : List String} (later : Lexes rest tokens) : Lexes (' ' :: rest) tokens
  | token {text rest : List Char} {token : String} {tokens : List String} (takes : Takes text token.toList rest)
    (later : Lexes rest tokens) : Lexes text (token :: tokens)

theorem Takes.unique {others : List Char} (first : Takes text token rest) (second : Takes text other others) :
    token = other ∧ rest = others := by
  have begins : token <+: text := ⟨rest, first.split.symm⟩
  have alsoBegins : other <+: text := ⟨others, second.split.symm⟩
  have shorter := first.longest other second.isToken alsoBegins
  have longer := second.longest token first.isToken begins
  have same : token = other :=
    (List.prefix_of_prefix_length_le begins alsoBegins longer).eq_of_length_le shorter
  subst same
  exact ⟨rfl, List.append_cancel_left (first.split.symm.trans second.split)⟩

theorem Takes.not_blank (takes : Takes (' ' :: text) token rest) : False := by
  have isToken := takes.isToken
  cases token with
  | nil => exact absurd isToken (by decide +kernel)
  | cons c others =>
    obtain ⟨rfl, _⟩ := List.cons.inj takes.split
    rw [isToken_blank] at isToken
    cases isToken

theorem lexes_blank_iff : Lexes (' ' :: rest) tokens ↔ Lexes rest tokens := by
  constructor
  · intro lexes
    cases lexes with
    | blank later => exact later
    | token takes _ => exact takes.not_blank.elim
  · exact .blank

/-- After the longest token reading goes on behind it. -/
theorem Takes.lexes_iff {token : String} (takes : Takes text token.toList rest) :
    Lexes text (token :: tokens) ↔ Lexes rest tokens := by
  constructor
  · intro lexes
    cases lexes with
    | blank => exact takes.not_blank.elim
    | token again later =>
      obtain ⟨_, rfl⟩ := again.unique takes
      exact later
  · exact .token takes

/-- A token is the longest if it cannot go on with what follows. -/
theorem takes_of_stuck (token : List Char) (isToken : isToken token = true)
    (stuck : ∀ c ∈ rest.head?, ∀ more, Munch.isToken (token ++ c :: more) = false) :
    Takes (token ++ rest) token rest := by
  refine ⟨rfl, isToken, fun longer isLonger begins => ?_⟩
  by_cases short : longer.length ≤ token.length
  · exact short
  · obtain ⟨tail, rfl⟩ :=
      List.prefix_of_prefix_length_le (List.prefix_append token rest) begins (Nat.le_of_not_le short)
    cases tail with
    | nil => simp
    | cons c more =>
      obtain ⟨others, goesOn⟩ := (List.prefix_append_right_inj token).mp begins
      rw [stuck c (by rw [← goesOn]; rfl) more] at isLonger
      cases isLonger

/-! ## Words -/

/-- What begins with a letter is a word or no token. -/
theorem isToken_of_letter {c : Char} (letter : (c.isAlpha || c == '_') = true) :
    isToken (c :: rest) = rest.all isWordChar := by
  have noDigit : c.isDigit = false := by
    refine Bool.eq_false_iff.mpr fun digit => ?_
    rw [isLetter_of_isDigit digit] at letter
    cases letter
  rw [isToken_of_isWordChar (Scan.isWordChar_of_isLetter letter), noDigit, isWord, letter]
  simp

theorem takes_word {word : String} (valid : isIdentifier word = true)
    (ends : ∀ c ∈ rest.head?, isWordChar c = false) : Takes (word.toList ++ rest) word.toList rest := by
  unfold isIdentifier at valid
  cases split : word.toList with
  | nil => simp [split] at valid
  | cons first others =>
    rw [split, Bool.and_eq_true] at valid
    refine takes_of_stuck _ ?_ fun c following more => ?_
    · rw [isToken_of_letter valid.1]
      exact valid.2
    · rw [List.cons_append, isToken_of_letter valid.1, List.all_append, List.all_cons, ends c following]
      simp

/-! ## Numbers -/

theorem isToken_of_digit {c : Char} (digit : c.isDigit = true) : isToken (c :: rest) = numberGoesOn c rest := by
  rw [isToken_of_isWordChar (Scan.isWordChar_of_isDigit digit), isWord, isLetter_of_isDigit digit, digit]
  simp

theorem isToken_of_point {c : Char} (digit : c.isDigit = true) :
    isToken ('.' :: c :: rest) = numberGoesOn c rest := by
  have noSymbol : isSymbol ('.' :: c :: rest) = false := by
    have noDigits : (followers ['.']).all fun c => !c.isDigit := by decide +kernel
    refine Bool.eq_false_iff.mpr fun symbol => ?_
    have other := List.all_eq_true.mp noDigits c (mem_followers symbol)
    rw [digit] at other
    cases other
  rw [isToken, noSymbol]
  simp [isWord, isNumber, isLiteral, digit]

theorem numberGoesOn_append (last : Char) {first : List Char} (second : List Char) :
    numberGoesOn last (first ++ second) =
      (numberGoesOn last first && numberGoesOn (first.getLastD last) second) := by
  induction first generalizing last with
  | nil => simp [numberGoesOn]
  | cons c first ih =>
    rw [List.cons_append, numberGoesOn, numberGoesOn, ih, List.getLastD_cons, Bool.and_assoc]

theorem numberGoesOn_digits (last : Char) {digits : List Char} (all : digits.all Char.isDigit = true) :
    numberGoesOn last digits = true := by
  induction digits generalizing last with
  | nil => rfl
  | cons c digits ih =>
    rw [List.all_cons, Bool.and_eq_true] at all
    simp [numberGoesOn, Scan.isWordChar_of_isDigit all.1, ih c all.2]

theorem numberGoesOn_size (last : Char) (spelling : Decimal.Spelling) :
    numberGoesOn last spelling.size = true := by
  have fraction (last : Char) : numberGoesOn last spelling.fraction = true := by
    rcases spelling.isFraction with missing | ⟨digits, fraction, all⟩
    · rw [missing]
      rfl
    · rw [fraction, numberGoesOn, numberGoesOn_digits '.' all]
      simp
  have power (last : Char) : numberGoesOn last spelling.power = true := by
    rcases spelling.isPower with missing | ⟨letter, sign, digits, power, isLetter, isSign, _, all⟩
    · rw [missing]
      rfl
    · have signs : numberGoesOn letter sign = true := by
        rcases isLetter with rfl | rfl <;> rcases isSign with rfl | rfl | rfl <;> decide
      have mark : isWordChar letter = true := by rcases isLetter with rfl | rfl <;> decide
      rw [power, numberGoesOn, numberGoesOn_append, signs, numberGoesOn_digits _ all, mark]
      rfl
  rw [Decimal.Spelling.size, numberGoesOn_append, numberGoesOn_append, fraction, power,
    numberGoesOn_digits last spelling.isWhole]
  rfl

/-- A number is a token as long as it goes on. -/
theorem isToken_size (spelling : Decimal.Spelling) :
    ∃ last, ∀ tail, isToken (spelling.size ++ tail) = numberGoesOn last tail := by
  have whole := numberGoesOn_size ' ' spelling
  rcases spelling.size_start with ⟨digit, others, start, isDigit⟩ | ⟨digit, others, start, isDigit⟩
  · rw [start, numberGoesOn, Bool.and_eq_true] at whole
    refine ⟨others.getLastD digit, fun tail => ?_⟩
    rw [start, List.cons_append, isToken_of_digit isDigit, numberGoesOn_append, whole.2, Bool.true_and]
  · rw [start, numberGoesOn, numberGoesOn, Bool.and_eq_true, Bool.and_eq_true] at whole
    refine ⟨others.getLastD digit, fun tail => ?_⟩
    rw [start, List.cons_append, List.cons_append, isToken_of_point isDigit, numberGoesOn_append, whole.2.2,
      Bool.true_and]

theorem takes_size (spelling : Decimal.Spelling) (delimited : Sketch.Delimited rest) :
    Takes (spelling.size ++ rest) spelling.size rest := by
  obtain ⟨last, goesOn⟩ := isToken_size spelling
  refine takes_of_stuck _ ?_ fun c following more => ?_
  · rw [← List.append_nil spelling.size, goesOn]
    rfl
  · have delimiter := delimited c following
    simp only [Sketch.delimiters, List.mem_cons, List.not_mem_nil, or_false] at delimiter
    rw [goesOn, numberGoesOn]
    rcases delimiter with rfl | rfl | rfl | rfl <;> rfl

/-! ## Symbols -/

/-- A symbol is the longest token if no symbol begins like it and goes on with what follows. -/
theorem takes_symbol {symbol : List Char} (isSymbol : isSymbol symbol = true) (noPoint : symbol.head? ≠ some '.')
    (ends : ∀ c ∈ rest.head?, c ∉ followers symbol) : Takes (symbol ++ rest) symbol rest := by
  refine takes_of_stuck symbol ?_ fun c following more => ?_
  · rw [isToken, isSymbol, Bool.or_true]
  · cases symbol with
    | nil => exact absurd isSymbol (by decide +kernel)
    | cons mark others =>
      obtain ⟨noWord, noQuote, _⟩ := isSymbol_cons isSymbol
      rw [List.cons_append, isToken_of_mark noWord noQuote fun point => noPoint (congrArg some point)]
      exact Bool.eq_false_iff.mpr fun longer => ends c following (mem_followers longer)

/-- Brackets and commas are tokens of their own. -/
theorem takes_bracket {c : Char} (bracket : c ∈ ['(', ')', ',']) (rest : List Char) : Takes (c :: rest) [c] rest := by
  have alone : ['(', ')', ','].all fun c => isSymbol [c] && (followers [c]).isEmpty && c != '.' := by decide +kernel
  have facts := List.all_eq_true.mp alone c bracket
  simp only [Bool.and_eq_true, List.isEmpty_iff, bne_iff_ne] at facts
  refine takes_symbol facts.1.1 (fun point => facts.2 (Option.some.inj point)) fun d _ follows => ?_
  rw [facts.1.2] at follows
  cases follows

theorem takes_operator (op : BinaryOp) (rest : List Char) :
    Takes (op.symbol.toList ++ ' ' :: rest) op.symbol.toList (' ' :: rest) := by
  refine takes_symbol (by cases op <;> decide +kernel) (by cases op <;> decide) fun c first => ?_
  obtain rfl : ' ' = c := Option.some.inj first
  cases op <;> decide +kernel

/-- A sign or a negation is a token of its own, unless what follows makes it longer. -/
theorem takes_mark {c : Char} (mark : c ∈ ['+', '-', '!']) (ends : ∀ d ∈ rest.head?, d ∉ [c, '=', '>']) :
    Takes (c :: rest) [c] rest := by
  have known : ['+', '-', '!'].all fun c => isSymbol [c] && (followers [c]).all ([c, '=', '>'].contains ·) && c != '.' := by
    decide +kernel
  have facts := List.all_eq_true.mp known c mark
  simp only [Bool.and_eq_true, bne_iff_ne] at facts
  refine takes_symbol facts.1.1 (fun point => facts.2 (Option.some.inj point)) fun d first follows => ?_
  exact ends d first (List.contains_iff_mem.mp (List.all_eq_true.mp facts.1.2 d follows))

/-- Two minus signs are one token. -/
theorem not_takes_minus : ¬Takes ('-' :: '-' :: text) ['-'] rest := by
  intro takes
  have short := takes.longest ['-', '-'] (by decide) (List.prefix_append _ text)
  simp at short

/-! ## Literals -/

theorem closesLiteral_append (value rest : List Char) :
    closesLiteral (value.flatMap Sketch.literalChar ++ '"' :: rest) = rest.isEmpty := by
  induction value with
  | nil => rfl
  | cons c value ih =>
    rw [List.flatMap_cons, List.append_assoc]
    rcases Scan.literalChar_cases c with ⟨d, escaped, _⟩ | ⟨plain, quote, backslash, newline⟩
    · simp [escaped, closesLiteral, ih]
    · simp [plain, closesLiteral, backslash, ih]

/-- The text between quotes. -/
def quoted (value : String) : String :=
  "\"" ++ String.ofList (value.toList.flatMap Sketch.literalChar) ++ "\""

theorem takes_quoted (value : String) (rest : List Char) :
    Takes ((quoted value).toList ++ rest) (quoted value).toList rest := by
  have text (tail : List Char) : isToken ((quoted value).toList ++ tail) = tail.isEmpty := by
    have noSymbol (others : List Char) : isSymbol ('"' :: others) = false :=
      Bool.eq_false_iff.mpr fun symbol => (isSymbol_cons symbol).2.1 rfl
    have cut : (quoted value).toList ++ tail = '"' :: (value.toList.flatMap Sketch.literalChar ++ '"' :: tail) := by
      simp [quoted, String.toList_append]
    rw [cut, isToken, noSymbol]
    simp [isWord, isNumber, isLiteral, closesLiteral_append]
  refine takes_of_stuck _ ?_ fun c _ more => text _
  rw [← List.append_nil (quoted value).toList, text]
  rfl

/-! ## Pieces of code -/

section
variable (rest) (others : List String)

theorem lexes_open : Lexes ("(".toList ++ rest) ("(" :: others) ↔ Lexes rest others := by
  have takes : Takes ("(".toList ++ rest) "(".toList rest := takes_bracket (by decide) rest
  exact takes.lexes_iff

theorem lexes_close : Lexes (")".toList ++ rest) (")" :: others) ↔ Lexes rest others := by
  have takes : Takes (")".toList ++ rest) ")".toList rest := takes_bracket (by decide) rest
  exact takes.lexes_iff

theorem lexes_blank : Lexes (" ".toList ++ rest) others ↔ Lexes rest others :=
  lexes_blank_iff

theorem lexes_comma : Lexes (", ".toList ++ rest) ("," :: others) ↔ Lexes rest others := by
  have takes : Takes (", ".toList ++ rest) ",".toList (" ".toList ++ rest) := takes_bracket (by decide) _
  rw [takes.lexes_iff, lexes_blank]

theorem lexes_operator (op : BinaryOp) :
    Lexes (op.symbol.toList ++ (" ".toList ++ rest)) (op.symbol :: others) ↔ Lexes rest others := by
  have takes : Takes (op.symbol.toList ++ (" ".toList ++ rest)) op.symbol.toList (" ".toList ++ rest) :=
    takes_operator op rest
  rw [takes.lexes_iff, lexes_blank]

theorem lexes_call {word : String} (valid : isIdentifier word = true) :
    Lexes (word.toList ++ ("(".toList ++ rest)) (word :: "(" :: others) ↔ Lexes rest others := by
  have ends : ∀ c ∈ ("(".toList ++ rest).head?, isWordChar c = false := by
    intro c first
    cases first
    decide
  rw [(takes_word valid ends).lexes_iff, lexes_open]

end

theorem isWordChar_of_delimited (delimited : Sketch.Delimited rest) : ∀ c ∈ rest.head?, isWordChar c = false := by
  have stops : Sketch.delimiters.all fun c => !isWordChar c := by decide
  intro c first
  simpa using List.all_eq_true.mp stops c (delimited c first)

theorem lexes_word {word : String} (valid : isIdentifier word = true) (delimited : Sketch.Delimited rest)
    (others : List String) : Lexes (word.toList ++ rest) (word :: others) ↔ Lexes rest others :=
  (takes_word valid (isWordChar_of_delimited delimited)).lexes_iff

theorem lexes_name (name : Sketch.Name) (delimited : Sketch.Delimited rest) (others : List String) :
    Lexes (name.text.toList ++ rest) (name.text :: others) ↔ Lexes rest others :=
  lexes_word name.isIdentifier_text delimited others

theorem lexes_digits {digits : String} (all : digits.toList.all Char.isDigit = true) (nonempty : digits.toList ≠ [])
    (delimited : Sketch.Delimited rest) (others : List String) :
    Lexes (digits.toList ++ rest) (digits :: others) ↔ Lexes rest others := by
  let spelling : Decimal.Spelling :=
    ⟨[], digits.toList, [], [], .inl rfl, all, .inl rfl, .inl rfl, fun missing => nonempty missing.1⟩
  have size : spelling.size = digits.toList := List.append_nil _
  have takes := takes_size spelling delimited
  rw [size] at takes
  exact takes.lexes_iff

end BlockSketch.Munch
