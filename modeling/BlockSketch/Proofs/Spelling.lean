import BlockSketch.Decimal.Numeral

/-!
How numbers are spelled. A text that denotes a number falls into four parts: a sign, the
digits before the point, the point with the digits after it, and the power of ten. Each
part may be missing, but not all digits.
-/
namespace BlockSketch

/-- A run of characters ends where the next one does not belong to it. -/
theorem run_split {p : Char → Bool} {run rest : List Char} (all : run.all p = true)
    (stops : ∀ c ∈ rest.head?, p c = false) :
    (run ++ rest).takeWhile p = run ∧ (run ++ rest).dropWhile p = rest := by
  have none : rest.takeWhile p = [] ∧ rest.dropWhile p = rest := by
    cases rest with
    | nil => exact ⟨rfl, rfl⟩
    | cons c others => simp [stops c rfl]
  rw [List.all_eq_true] at all
  rw [List.takeWhile_append_of_pos all, List.dropWhile_append_of_pos all, none.1, none.2, List.append_nil]
  exact ⟨rfl, rfl⟩

namespace Decimal

/-! ## The parts of a number -/

/-- A sign, or none. -/
def IsSign (text : List Char) : Prop :=
  text = [] ∨ text = ['+'] ∨ text = ['-']

/-- A point with the digits after it, or nothing. -/
def IsFraction (text : List Char) : Prop :=
  text = [] ∨ ∃ digits, text = '.' :: digits ∧ digits.all Char.isDigit = true

/-- The letter of a power with its sign and its digits, or nothing. -/
def IsPower (text : List Char) : Prop :=
  text = [] ∨ ∃ letter sign digits, text = letter :: (sign ++ digits) ∧ (letter = 'e' ∨ letter = 'E') ∧
    IsSign sign ∧ digits ≠ [] ∧ digits.all Char.isDigit = true

/-- The parts of a number in the order in which they are written. -/
structure Spelling where
  sign : List Char
  whole : List Char
  fraction : List Char
  power : List Char
  isSign : IsSign sign
  isWhole : whole.all Char.isDigit = true
  isFraction : IsFraction fraction
  isPower : IsPower power
  /-- A point alone is no number. -/
  hasDigit : ¬(whole = [] ∧ fraction.tail = [])

namespace Spelling

/-- The number without its sign. -/
def size (spelling : Spelling) : List Char :=
  spelling.whole ++ (spelling.fraction ++ spelling.power)

def text (spelling : Spelling) : List Char :=
  spelling.sign ++ spelling.size

end Spelling

/-! ## Reading finds the parts -/

theorem readSign_split (text : List Char) : ∃ sign, IsSign sign ∧ text = sign ++ (readSign text).2 := by
  unfold readSign
  split
  · exact ⟨['+'], .inr (.inl rfl), rfl⟩
  · exact ⟨['-'], .inr (.inr rfl), rfl⟩
  · exact ⟨[], .inl rfl, rfl⟩

theorem readFraction_split (text : List Char) :
    ∃ fraction, IsFraction fraction ∧ fraction.tail = (readFraction text).1 ∧
      text = fraction ++ (readFraction text).2 := by
  unfold readFraction
  split
  · next rest =>
    refine ⟨'.' :: rest.takeWhile Char.isDigit, .inr ⟨_, rfl, List.all_takeWhile⟩, rfl, ?_⟩
    rw [List.cons_append]
    exact congrArg _ List.takeWhile_append_dropWhile.symm
  · exact ⟨[], .inl rfl, rfl, rfl⟩

theorem isPower_of_readExponent? {text : List Char} {size : Int}
    (reads : readExponent? text = some size) : IsPower text := by
  cases text with
  | nil => exact .inl rfl
  | cons letter rest =>
    obtain ⟨sign, isSign, split⟩ := readSign_split rest
    simp only [readExponent?] at reads
    split at reads
    · next isLetter =>
      split at reads
      · cases reads
      · next digits =>
        simp only [Bool.or_eq_true, Bool.not_eq_true', not_or, Bool.not_eq_false, List.isEmpty_iff] at digits
        simp only [Bool.or_eq_true, beq_iff_eq] at isLetter
        exact .inr ⟨letter, sign, (readSign rest).2, by rw [← split], isLetter, isSign, digits⟩
    · cases reads

/-- A text that denotes a number is spelled like one. -/
theorem exists_spelling {text : List Char} {decimal : Decimal} (reads : read? text = some decimal) :
    ∃ spelling : Spelling, spelling.text = text := by
  obtain ⟨sign, isSign, signSplit⟩ := readSign_split text
  obtain ⟨fraction, isFraction, tail, fractionSplit⟩ :=
    readFraction_split (spanDigits (readSign text).2).2
  have wholeSplit : (readSign text).2 = (spanDigits (readSign text).2).1 ++ (spanDigits (readSign text).2).2 :=
    List.takeWhile_append_dropWhile.symm
  unfold read? at reads
  simp only at reads
  split at reads
  · cases reads
  · next some =>
    obtain ⟨_, power, _⟩ := Option.map_eq_some_iff.mp reads
    rw [Bool.and_eq_true, List.isEmpty_iff, List.isEmpty_iff, ← tail] at some
    refine ⟨⟨sign, _, fraction, _, isSign, List.all_takeWhile, isFraction,
      isPower_of_readExponent? power, some⟩, ?_⟩
    show sign ++ ((spanDigits (readSign text).2).1 ++ (fraction ++ _)) = text
    rw [← fractionSplit, ← wholeSplit, ← signSplit]

end Decimal

/-! ## Literals -/

/-- The characters of numbers. -/
def isNumeralChar (c : Char) : Bool :=
  c.isDigit || ['.', 'e', 'E', '+', '-'].contains c

theorem all_isNumeralChar_of_isDigit {digits : List Char} (all : digits.all Char.isDigit = true) :
    digits.all isNumeralChar = true := by
  rw [List.all_eq_true] at all ⊢
  intro c member
  simp [isNumeralChar, all c member]

namespace Decimal

theorem IsSign.all_isNumeralChar {text : List Char} (sign : IsSign text) :
    text.all isNumeralChar = true := by
  rcases sign with rfl | rfl | rfl <;> decide

theorem IsFraction.all_isNumeralChar {text : List Char} (fraction : IsFraction text) :
    text.all isNumeralChar = true := by
  rcases fraction with rfl | ⟨digits, rfl, all⟩
  · rfl
  · rw [List.all_cons, all_isNumeralChar_of_isDigit all]
    decide

theorem IsPower.all_isNumeralChar {text : List Char} (power : IsPower text) :
    text.all isNumeralChar = true := by
  rcases power with rfl | ⟨letter, sign, digits, rfl, isLetter, isSign, _, all⟩
  · rfl
  · rw [List.all_cons, List.all_append, isSign.all_isNumeralChar, all_isNumeralChar_of_isDigit all]
    rcases isLetter with rfl | rfl <;> decide

theorem Spelling.all_isNumeralChar (spelling : Spelling) : spelling.text.all isNumeralChar = true := by
  rw [text, size, List.all_append, List.all_append, List.all_append, spelling.isSign.all_isNumeralChar,
    all_isNumeralChar_of_isDigit spelling.isWhole, spelling.isFraction.all_isNumeralChar,
    spelling.isPower.all_isNumeralChar]
  rfl

/-- The size begins with a digit, or with a point and a digit. -/
theorem Spelling.size_start (spelling : Spelling) :
    (∃ digit rest, spelling.size = digit :: rest ∧ digit.isDigit = true) ∨
      ∃ digit rest, spelling.size = '.' :: digit :: rest ∧ digit.isDigit = true := by
  have digits := spelling.isWhole
  unfold size
  cases whole : spelling.whole with
  | cons c others =>
    rw [whole, List.all_cons, Bool.and_eq_true] at digits
    exact .inl ⟨c, _, rfl, digits.1⟩
  | nil =>
    rcases spelling.isFraction with missing | ⟨after, fraction, all⟩
    · exact absurd ⟨whole, by rw [missing]; rfl⟩ spelling.hasDigit
    · cases after with
      | nil => exact absurd ⟨whole, by rw [fraction]; rfl⟩ spelling.hasDigit
      | cons c others =>
        rw [List.all_cons, Bool.and_eq_true] at all
        exact .inr ⟨c, others ++ spelling.power, by rw [fraction]; rfl, all.1⟩

theorem Spelling.text_ne_nil (spelling : Spelling) : spelling.text ≠ [] := by
  intro empty
  have missing := (List.append_eq_nil_iff.mp empty).2
  rcases spelling.size_start with ⟨digit, rest, start, _⟩ | ⟨digit, rest, start, _⟩
  · exact List.cons_ne_nil _ _ (start.symm.trans missing)
  · exact List.cons_ne_nil _ _ (start.symm.trans missing)

end Decimal

theorem Numeral.exists_spelling (literal : Numeral) :
    ∃ spelling : Decimal.Spelling, spelling.text = literal.text.toList := by
  obtain ⟨decimal, reads, _⟩ := Option.bind_eq_some_iff.mp literal.reads
  exact Decimal.exists_spelling reads

theorem Numeral.ofString?_of_reads {raw : String} {value : Double}
    (reads : Double.read? (Text.trim raw) = some value) :
    Numeral.ofString? raw = some ⟨Text.trim raw, value, reads⟩ := by
  unfold Numeral.ofString?
  split
  · next found isFound =>
    obtain rfl := Option.some.inj (isFound.symm.trans reads)
    rfl
  · next missing =>
    rw [missing] at reads
    cases reads

theorem Numeral.ofString?_eq_none {raw : String} (missing : Double.read? (Text.trim raw) = none) :
    Numeral.ofString? raw = none := by
  unfold Numeral.ofString?
  split
  · next found isFound =>
    rw [missing] at isFound
    cases isFound
  · rfl

/-- A literal has the text that it is made from, without the blanks around it. -/
theorem Numeral.ofString?_eq_some_iff {raw : String} {literal : Numeral} :
    Numeral.ofString? raw = some literal ↔ literal.text = Text.trim raw := by
  constructor
  · intro accepted
    cases reads : Double.read? (Text.trim raw) with
    | none =>
      rw [ofString?_eq_none reads] at accepted
      cases accepted
    | some value =>
      rw [ofString?_of_reads reads] at accepted
      exact congrArg Numeral.text (Option.some.inj accepted).symm
  · intro same
    obtain ⟨text, value, reads⟩ := literal
    obtain rfl : text = Text.trim raw := same
    exact ofString?_of_reads reads

end BlockSketch
