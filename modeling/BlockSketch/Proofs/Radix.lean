import BlockSketch.Proofs.Spelling
import BlockSketch.Sketch.Generate
import Mathlib.Algebra.Field.Rat
import Mathlib.Data.Nat.Digits.Defs
import Mathlib.Tactic.FieldSimp

/-!
The numbers that number texts denote. A program and a sketch do not read them alike:
`Decimal.value` is the number that a text denotes in a program, and `Radix.literal?` the one
that it denotes in a sketch, where a whole number that begins with a zero has the base eight.

The text of a number goes into the sketch as it is, so it keeps its number exactly if it is
no whole number that the base eight changes (`number_kept_iff`).
-/
namespace BlockSketch

/-- The number itself. -/
def Decimal.value (number : Decimal) : ℚ :=
  (if number.negative then -1 else 1) * (number.digits * 10 ^ number.exponent)

/-! ## How a sketch reads numbers -/

namespace Radix

def digit (c : Char) : Nat :=
  c.toNat - '0'.toNat

/-- The number with these digits to a base, the highest digit first. -/
def ofDigits (base : Nat) (digits : List Char) : Nat :=
  Nat.ofDigits base (digits.reverse.map digit)

/-- Whether these are digits to a base, and at least one. -/
def areDigits (base : Nat) (digits : List Char) : Bool :=
  !digits.isEmpty && digits.all fun c => c.isDigit && digit c < base

def ofDigits? (base : Nat) (digits : List Char) : Option Nat :=
  if areDigits base digits then some (ofDigits base digits) else none

/-- With more than one digit, a zero in front makes the base eight. -/
def base (digits : List Char) : Nat :=
  if 1 < digits.length && digits.head? == some '0' then 8 else 10

def whole? (digits : List Char) : Option ℚ :=
  (ofDigits? (base digits) digits).map fun size : Nat => (size : ℚ)

def isPowerLetter (c : Char) : Bool :=
  c == 'e' || c == 'E'

/-- The power of ten: nothing, or a letter and a whole number to the base ten. -/
def power? : List Char → Option ℤ
  | [] => some 0
  | _ :: text =>
    let (negative, digits) := Decimal.readSign text
    (ofDigits? 10 digits).map fun size : Nat => if negative then -(size : ℤ) else size

/-- A number with a point, with a power of ten, or with both. It has the base ten, whatever
    it begins with. -/
def floating? (text : List Char) : Option ℚ := do
  let mantissa := text.takeWhile (!isPowerLetter ·)
  let whole := mantissa.takeWhile (· != '.')
  let fraction := (mantissa.dropWhile (· != '.')).tail
  let digits ← ofDigits? 10 (whole ++ fraction)
  let power ← power? (text.dropWhile (!isPowerLetter ·))
  return digits / 10 ^ fraction.length * 10 ^ power

def unsigned? (text : List Char) : Option ℚ :=
  if text.any (fun c => c == '.' || isPowerLetter c) then floating? text else whole? text

/-- The number that a text denotes in a sketch. -/
def literal? (text : List Char) : Option ℚ :=
  let (negative, size) := Decimal.readSign text
  (unsigned? size).map fun value => (if negative then -1 else 1) * value

/-! ## Digits -/

theorem ofDigits_cons (base : Nat) (c : Char) (digits : List Char) :
    ofDigits base (c :: digits) = digit c * base ^ digits.length + ofDigits base digits := by
  rw [ofDigits, List.reverse_cons, List.map_append, Nat.ofDigits_append, List.map_singleton,
    Nat.ofDigits_singleton, List.length_map, List.length_reverse]
  unfold ofDigits
  ring

theorem digitsValue_eq (start : Nat) (digits : List Char) :
    Decimal.digitsValue start digits = start * 10 ^ digits.length + ofDigits 10 digits := by
  induction digits generalizing start with
  | nil => simp [Decimal.digitsValue, ofDigits]
  | cons c digits ih =>
    have next : Decimal.digitsValue start (c :: digits) = Decimal.digitsValue (10 * start + digit c) digits := rfl
    rw [next, ih, ofDigits_cons, List.length_cons]
    ring

theorem digitsValue_zero (digits : List Char) : Decimal.digitsValue 0 digits = ofDigits 10 digits := by
  rw [digitsValue_eq, Nat.zero_mul, Nat.zero_add]

theorem digitsValue_append (whole fraction : List Char) :
    Decimal.digitsValue (Decimal.digitsValue 0 whole) fraction = ofDigits 10 (whole ++ fraction) := by
  rw [← digitsValue_zero]
  exact List.foldl_append.symm

theorem toNat_of_isDigit {c : Char} (isDigit : c.isDigit = true) : 48 ≤ c.toNat ∧ c.toNat ≤ 57 := by
  simp only [Char.isDigit, Bool.and_eq_true, decide_eq_true_eq, UInt32.le_iff_toNat_le] at isDigit
  exact isDigit

theorem digit_lt {c : Char} (isDigit : c.isDigit = true) : digit c < 10 := by
  have zero : '0'.toNat = 48 := rfl
  have bounds := toNat_of_isDigit isDigit
  unfold digit
  omega

theorem digit_eq_iff {c d : Char} (first : c.isDigit = true) (second : d.isDigit = true) :
    digit c = digit d ↔ c = d := by
  constructor
  · intro same
    have zero : '0'.toNat = 48 := rfl
    have bounds := toNat_of_isDigit first
    have others := toNat_of_isDigit second
    unfold digit at same
    exact Char.toNat_inj.mp (by omega)
  · rintro rfl
    rfl

theorem areDigits_iff {base : Nat} {digits : List Char} (some : digits ≠ [])
    (all : digits.all Char.isDigit = true) :
    areDigits base digits = true ↔ ∀ c ∈ digits, digit c < base := by
  rw [List.all_eq_true] at all
  simp only [areDigits, Bool.and_eq_true, Bool.not_eq_true', List.isEmpty_eq_false_iff, List.all_eq_true,
    decide_eq_true_eq]
  constructor
  · rintro ⟨_, below⟩ c member
    exact (below c member).2
  · intro below
    exact ⟨some, fun c member => ⟨all c member, below c member⟩⟩

theorem ofDigits?_ten {digits : List Char} (some : digits ≠ []) (all : digits.all Char.isDigit = true) :
    ofDigits? 10 digits = .some (ofDigits 10 digits) := by
  have below : areDigits 10 digits = true :=
    (areDigits_iff some all).mpr fun c member => digit_lt (List.all_eq_true.mp all c member)
  rw [ofDigits?, if_pos below]

/-! ## The parts of a number -/

open Decimal (IsSign IsFraction IsPower Spelling)

/-- No sign stands in front. -/
def Unsigned (text : List Char) : Prop :=
  ∀ c ∈ text.head?, c ≠ '+' ∧ c ≠ '-'

theorem readSign_append {sign text : List Char} (isSign : IsSign sign) (unsigned : Unsigned text) :
    Decimal.readSign (sign ++ text) = (sign == ['-'], text) := by
  rcases isSign with rfl | rfl | rfl
  · rw [List.nil_append]
    unfold Decimal.readSign
    split
    · exact absurd rfl (unsigned '+' rfl).1
    · exact absurd rfl (unsigned '-' rfl).2
    · rfl
  · rfl
  · rfl

theorem not_sign_of_isDigit {c : Char} (isDigit : c.isDigit = true) : c ≠ '+' ∧ c ≠ '-' := by
  constructor
  · rintro rfl
    exact absurd isDigit (by decide)
  · rintro rfl
    exact absurd isDigit (by decide)

theorem unsigned_of_isDigit {digits : List Char} (all : digits.all Char.isDigit = true) : Unsigned digits :=
  fun c first => not_sign_of_isDigit (List.all_eq_true.mp all c (List.mem_of_mem_head? first))

theorem unsigned_size (spelling : Spelling) : Unsigned spelling.size := by
  rcases spelling.size_start with ⟨digit, rest, start, isDigit⟩ | ⟨digit, rest, start, _⟩
  · rw [start]
    rintro _ ⟨⟩
    exact not_sign_of_isDigit isDigit
  · rw [start]
    rintro _ ⟨⟩
    decide

/-- A power begins with its letter. -/
theorem isPowerLetter_of_head {power : List Char} (isPower : IsPower power) :
    ∀ c ∈ power.head?, isPowerLetter c = true := by
  rcases isPower with rfl | ⟨letter, sign, digits, rfl, isLetter, _⟩
  · nofun
  · rintro _ ⟨⟩
    rcases isLetter with rfl | rfl <;> decide

theorem isDigit_of_isPowerLetter {c : Char} (letter : isPowerLetter c = true) : c.isDigit = false := by
  simp only [isPowerLetter, Bool.or_eq_true, beq_iff_eq] at letter
  rcases letter with rfl | rfl <;> decide

/-- Programs and sketches read powers alike. -/
theorem exists_power {power : List Char} (isPower : IsPower power) :
    ∃ size, Decimal.readExponent? power = some size ∧ power? power = some size := by
  rcases isPower with rfl | ⟨letter, sign, digits, rfl, isLetter, isSign, some, all⟩
  · exact ⟨0, rfl, rfl⟩
  · have split := readSign_append isSign (unsigned_of_isDigit all)
    have letters : (letter == 'e' || letter == 'E') = true := by simpa using isLetter
    refine ⟨if sign == ['-'] then -(ofDigits 10 digits : ℤ) else ofDigits 10 digits, ?_, ?_⟩
    · simp [Decimal.readExponent?, letters, split, some, all, digitsValue_zero]
    · simp [power?, split, ofDigits?_ten some all]

/-- The parts of a number in a program. -/
theorem read?_spelling (spelling : Spelling) {size : ℤ} (power : power? spelling.power = some size) :
    Decimal.read? spelling.text = some
      ⟨spelling.sign == ['-'], ofDigits 10 (spelling.whole ++ spelling.fraction.tail),
        size - spelling.fraction.tail.length⟩ := by
  obtain ⟨_, exponent, same⟩ := exists_power spelling.isPower
  obtain rfl := Option.some.inj (power.symm.trans same)
  have letters := isPowerLetter_of_head spelling.isPower
  have fraction : Decimal.readFraction (spelling.fraction ++ spelling.power) =
      (spelling.fraction.tail, spelling.power) := by
    rcases spelling.isFraction with none | ⟨digits, present, all⟩
    · rw [none]
      unfold Decimal.readFraction
      split
      · next start => exact absurd (letters '.' (by rw [show spelling.power = _ from start]; rfl)) (by decide)
      · rfl
    · rw [present]
      obtain ⟨front, back⟩ := run_split all fun c first => isDigit_of_isPowerLetter (letters c first)
      simp only [List.cons_append, Decimal.readFraction, Decimal.spanDigits, front, back, List.tail_cons]
  have whole : Decimal.spanDigits spelling.size = (spelling.whole, spelling.fraction ++ spelling.power) := by
    have stops : ∀ c ∈ (spelling.fraction ++ spelling.power).head?, c.isDigit = false := by
      rcases spelling.isFraction with none | ⟨digits, present, _⟩
      · rw [none]
        exact fun c first => isDigit_of_isPowerLetter (letters c first)
      · rw [present]
        rintro _ ⟨⟩
        decide
    obtain ⟨front, back⟩ := run_split spelling.isWhole stops
    rw [Decimal.Spelling.size, Decimal.spanDigits, front, back]
  have someDigit : (spelling.whole.isEmpty && spelling.fraction.tail.isEmpty) = false := by
    simpa [List.isEmpty_iff] using spelling.hasDigit
  simp only [Decimal.read?, Decimal.Spelling.text, readSign_append spelling.isSign (unsigned_size spelling), whole,
    fraction, someDigit, exponent, digitsValue_append]
  rfl

theorem isPowerLetter_of_isDigit {c : Char} (isDigit : c.isDigit = true) : isPowerLetter c = false :=
  Bool.eq_false_iff.mpr fun letter => by
    rw [isDigit_of_isPowerLetter letter] at isDigit
    cases isDigit

theorem ne_point_of_isDigit {c : Char} (isDigit : c.isDigit = true) : (c != '.') = true := by
  rw [bne_iff_ne]
  rintro rfl
  exact absurd isDigit (by decide)

/-- The digits and the point have no letter of a power among them. -/
theorem mantissa_all (spelling : Spelling) :
    (spelling.whole ++ spelling.fraction).all (!isPowerLetter ·) = true := by
  have plain {digits : List Char} (all : digits.all Char.isDigit = true) :
      digits.all (!isPowerLetter ·) = true :=
    List.all_eq_true.mpr fun c member => by rw [isPowerLetter_of_isDigit (List.all_eq_true.mp all c member)]; rfl
  rw [List.all_append, plain spelling.isWhole, Bool.true_and]
  rcases spelling.isFraction with none | ⟨digits, present, all⟩
  · rw [none]
    rfl
  · rw [present, List.all_cons, plain all]
    decide

/-- A number with a point or a power keeps the base ten. -/
theorem unsigned?_floating (spelling : Spelling) {size : ℤ} (power : power? spelling.power = some size)
    (more : ¬(spelling.fraction = [] ∧ spelling.power = [])) :
    unsigned? spelling.size = some
      ((ofDigits 10 (spelling.whole ++ spelling.fraction.tail) : ℚ) / 10 ^ spelling.fraction.tail.length * 10 ^ size) := by
  have letters := isPowerLetter_of_head spelling.isPower
  have marked : spelling.size.any (fun c => c == '.' || isPowerLetter c) = true := by
    rw [Decimal.Spelling.size, List.any_append, List.any_append]
    rcases spelling.isFraction with none | ⟨digits, present, _⟩
    · cases start : spelling.power with
      | nil => exact absurd ⟨none, start⟩ more
      | cons c rest => simp [letters c (by rw [start]; rfl)]
    · simp [present]
  have mantissa : spelling.size.takeWhile (!isPowerLetter ·) = spelling.whole ++ spelling.fraction ∧
      spelling.size.dropWhile (!isPowerLetter ·) = spelling.power := by
    rw [Decimal.Spelling.size, ← List.append_assoc]
    exact run_split (mantissa_all spelling) fun c first => by rw [letters c first]; rfl
  have point : ∀ c ∈ spelling.fraction.head?, (c != '.') = false := by
    rcases spelling.isFraction with none | ⟨digits, present, _⟩
    · rw [none]
      intro c first
      cases first
    · rw [present]
      rintro _ ⟨⟩
      rfl
  obtain ⟨whole, fraction⟩ := run_split
    (List.all_eq_true.mpr fun c member => ne_point_of_isDigit (List.all_eq_true.mp spelling.isWhole c member)) point
  have digits : ofDigits? 10 (spelling.whole ++ spelling.fraction.tail) =
      some (ofDigits 10 (spelling.whole ++ spelling.fraction.tail)) := by
    refine ofDigits?_ten (fun none => spelling.hasDigit (List.append_eq_nil_iff.mp none)) ?_
    rw [List.all_append, spelling.isWhole, Bool.true_and]
    rcases spelling.isFraction with none | ⟨digits, present, all⟩
    · rw [none]
      rfl
    · rw [present]
      exact all
  rw [unsigned?, if_pos marked, floating?]
  simp only [mantissa.1, mantissa.2, whole, fraction, digits, power]
  rfl

/-- Digits alone are a whole number. -/
theorem unsigned?_digits {digits : List Char} (all : digits.all Char.isDigit = true) :
    unsigned? digits = whole? digits := by
  have unmarked : ¬digits.any (fun c => c == '.' || isPowerLetter c) = true := by
    rw [List.any_eq_true]
    rintro ⟨c, member, mark⟩
    have isDigit := List.all_eq_true.mp all c member
    have noPoint := ne_point_of_isDigit isDigit
    simp_all [isPowerLetter_of_isDigit isDigit]
  rw [unsigned?, if_neg unmarked]

theorem unsigned?_whole (spelling : Spelling) (fraction : spelling.fraction = []) (power : spelling.power = []) :
    unsigned? spelling.size = whole? spelling.whole := by
  rw [Decimal.Spelling.size, fraction, power, List.append_nil, List.append_nil]
  exact unsigned?_digits spelling.isWhole

/-! ## What the base eight changes -/

/-- The digits begin with a zero, go on, and are another number, or none, to the base eight. -/
def Spoiled (digits : List Char) : Prop :=
  ∃ front last, digits = '0' :: (front ++ [last]) ∧
    ¬((∀ c ∈ front, c = '0') ∧ last ≠ '8' ∧ last ≠ '9')

/-- Only the last digit counts the same to both bases. -/
theorem ofDigits_eight_eq_ten_iff {last : Nat} {others : List Nat} :
    Nat.ofDigits 8 (last :: others) = Nat.ofDigits 10 (last :: others) ↔ ∀ digit ∈ others, digit = 0 := by
  rw [Nat.ofDigits_cons, Nat.ofDigits_cons]
  constructor
  · intro same
    have less : Nat.ofDigits 8 others ≤ Nat.ofDigits 10 others := Nat.ofDigits_monotone others (by decide)
    have nothing : Nat.ofDigits 10 others = 0 := by omega
    exact Nat.digits_zero_of_eq_zero (by decide) nothing
  · intro zeros
    have noMore (base : Nat) : Nat.ofDigits base others = 0 := by
      rw [List.eq_replicate_of_mem zeros, Nat.ofDigits_replicate_zero]
    rw [noMore, noMore]

theorem digit_lt_eight_iff {c : Char} (isDigit : c.isDigit = true) : digit c < 8 ↔ c ≠ '8' ∧ c ≠ '9' := by
  rw [Ne, Ne, ← digit_eq_iff isDigit (d := '8') rfl, ← digit_eq_iff isDigit (d := '9') rfl]
  have below := digit_lt isDigit
  have eight : digit '8' = 8 := rfl
  have nine : digit '9' = 9 := rfl
  omega

theorem spoiled_iff {front : List Char} {last : Char} :
    Spoiled ('0' :: (front ++ [last])) ↔ ¬((∀ c ∈ front, c = '0') ∧ last ≠ '8' ∧ last ≠ '9') := by
  constructor
  · rintro ⟨others, other, same, changed⟩
    obtain ⟨rfl, ends⟩ := List.append_inj' (List.cons.inj same).2 rfl
    obtain rfl := List.singleton_inj.mp ends
    exact changed
  · intro changed
    exact ⟨front, last, rfl, changed⟩

/-- To the base eight, digits are the same number exactly if all but the last are zero and the
    last is below eight. -/
theorem ofDigits?_eight_iff {front : List Char} {last : Char} (all : (front ++ [last]).all Char.isDigit = true) :
    ofDigits? 8 ('0' :: (front ++ [last])) = some (ofDigits 10 ('0' :: (front ++ [last]))) ↔
      (∀ c ∈ front, c = '0') ∧ last ≠ '8' ∧ last ≠ '9' := by
  have digits := List.all_eq_true.mp all
  have isLast : last.isDigit = true := digits last (by simp)
  have inFront (c : Char) (member : c ∈ front) : c.isDigit = true := digits c (by simp [member])
  have split (base : Nat) : ofDigits base ('0' :: (front ++ [last])) =
      Nat.ofDigits base (digit last :: ('0' :: front).reverse.map digit) := by
    simp [ofDigits]
  have zeros : (∀ value ∈ ('0' :: front).reverse.map digit, value = 0) ↔ ∀ c ∈ front, c = '0' := by
    have same {c : Char} (member : c ∈ front) : digit c = 0 ↔ c = '0' := digit_eq_iff (d := '0') (inFront c member) rfl
    have zero : digit '0' = 0 := rfl
    simp only [List.forall_mem_map, List.mem_reverse, List.forall_mem_cons, zero, true_and]
    exact forall₂_congr fun c member => same member
  have small : areDigits 8 ('0' :: (front ++ [last])) = true ↔
      (∀ c ∈ front, digit c < 8) ∧ last ≠ '8' ∧ last ≠ '9' := by
    rw [areDigits_iff (List.cons_ne_nil _ _) (by rw [List.all_cons, all]; rfl), ← digit_lt_eight_iff isLast]
    simp only [List.forall_mem_cons, List.forall_mem_append, List.not_mem_nil, false_implies, implies_true, and_true]
    exact and_iff_right (by decide)
  rw [ofDigits?, split 8, split 10]
  constructor
  · intro kept
    split at kept
    · next isNumber =>
      have same := ofDigits_eight_eq_ten_iff.mp (Option.some.inj kept)
      exact ⟨zeros.mp same, (small.mp isNumber).2⟩
    · cases kept
  · rintro ⟨allZero, below⟩
    have isNumber := small.mpr ⟨fun c member => by rw [allZero c member]; decide, below⟩
    rw [if_pos isNumber, ofDigits_eight_eq_ten_iff.mpr (zeros.mpr allZero)]

theorem whole?_eq_iff {digits : List Char} (some : digits ≠ []) (all : digits.all Char.isDigit = true) :
    whole? digits = .some (ofDigits 10 digits : ℚ) ↔ ¬Spoiled digits := by
  have cast : whole? digits = .some (ofDigits 10 digits : ℚ) ↔
      ofDigits? (base digits) digits = .some (ofDigits 10 digits) := by
    simp [whole?]
  rw [cast]
  by_cases led : ∃ front last, digits = '0' :: (front ++ [last])
  · obtain ⟨front, last, rfl⟩ := led
    have eight : base ('0' :: (front ++ [last])) = 8 := by simp [base]
    rw [List.all_cons, Bool.and_eq_true] at all
    rw [eight, ofDigits?_eight_iff all.2, spoiled_iff, not_not]
  · have ten : base digits = 10 := by
      refine if_neg fun zeroLed => led ?_
      rw [Bool.and_eq_true, decide_eq_true_eq, beq_iff_eq] at zeroLed
      obtain ⟨rest, rfl⟩ := List.head?_eq_some_iff.mp zeroLed.2
      have more : rest ≠ [] := by
        rintro rfl
        exact absurd zeroLed.1 (by decide)
      exact ⟨rest.dropLast, rest.getLast more, by rw [List.dropLast_append_getLast]⟩
    rw [ten, ofDigits?_ten some all]
    refine iff_of_true rfl ?_
    rintro ⟨front, last, same, _⟩
    exact led ⟨front, last, same⟩

/-! ## Numbers of programs in sketches -/

/-- A whole number of more than one digit that begins with a zero. -/
structure ZeroLed (digits : List Char) : Prop where
  all : digits.all Char.isDigit = true
  more : 1 < digits.length
  zero : digits.head? = some '0'

/-- A sketch reads such a number to the base eight, and does not read it if it has a digit that
    is eight or nine. -/
theorem literal?_of_zeroLed {sign digits : List Char} (isSign : IsSign sign) (led : ZeroLed digits) :
    literal? (sign ++ digits) =
      (ofDigits? 8 digits).map fun size : Nat => (if sign = ['-'] then -1 else 1) * (size : ℚ) := by
  have eight : base digits = 8 := by simp [base, led.more, led.zero]
  rw [literal?, readSign_append isSign (unsigned_of_isDigit led.all)]
  simp only [unsigned?_digits led.all, whole?, eight, Option.map_map, Function.comp_def, beq_iff_eq]

/-- A whole number, perhaps with a sign, that the base eight changes. -/
def Skewed (text : List Char) : Prop :=
  ∃ sign digits, IsSign sign ∧ text = sign ++ digits ∧ digits.all Char.isDigit = true ∧ Spoiled digits

/-- A number that is skewed has neither a point nor a power. -/
theorem skewed_text_iff (spelling : Spelling) :
    Skewed spelling.text ↔ spelling.fraction = [] ∧ spelling.power = [] ∧ Spoiled spelling.whole := by
  have split := readSign_append spelling.isSign (unsigned_size spelling)
  constructor
  · rintro ⟨sign, digits, isSign, same, all, spoiled⟩
    have isSize : spelling.size = digits := by
      rw [← Decimal.Spelling.text, same, readSign_append isSign (unsigned_of_isDigit all)] at split
      exact (Prod.mk.inj split).2.symm
    rw [← isSize, Decimal.Spelling.size, List.all_append, List.all_append, Bool.and_eq_true, Bool.and_eq_true] at all
    have fraction : spelling.fraction = [] := by
      rcases spelling.isFraction with none | ⟨_, present, _⟩
      · exact none
      · exact absurd all.2.1 (by simp [present])
    have power : spelling.power = [] := by
      cases start : spelling.power with
      | nil => rfl
      | cons c rest =>
        have letter := isPowerLetter_of_head spelling.isPower c (by rw [start]; rfl)
        exact absurd all.2.2 (by simp [start, isDigit_of_isPowerLetter letter])
    refine ⟨fraction, power, ?_⟩
    rw [← isSize, Decimal.Spelling.size, fraction, power, List.append_nil, List.append_nil] at spoiled
    exact spoiled
  · rintro ⟨fraction, power, spoiled⟩
    refine ⟨spelling.sign, spelling.whole, spelling.isSign, ?_, spelling.isWhole, spoiled⟩
    rw [Decimal.Spelling.text, Decimal.Spelling.size, fraction, power, List.append_nil, List.append_nil]

/-- A sketch reads the number that a program reads, unless the text is skewed. -/
theorem literal?_eq_value_iff {text : List Char} {number : Decimal} (reads : Decimal.read? text = some number) :
    literal? text = some number.value ↔ ¬Skewed text := by
  obtain ⟨spelling, rfl⟩ := Decimal.exists_spelling reads
  obtain ⟨size, _, power⟩ := exists_power spelling.isPower
  obtain rfl := Option.some.inj ((read?_spelling spelling power).symm.trans reads)
  have signed : literal? spelling.text =
      (unsigned? spelling.size).map fun value => (if spelling.sign == ['-'] then -1 else 1) * value := by
    rw [literal?, Decimal.Spelling.text, readSign_append spelling.isSign (unsigned_size spelling)]
  have nonzero : (if spelling.sign == ['-'] then -1 else 1 : ℚ) ≠ 0 := by
    split <;> norm_num
  rw [signed, skewed_text_iff, Decimal.value]
  by_cases whole : spelling.fraction = [] ∧ spelling.power = []
  · obtain ⟨noFraction, noPower⟩ := whole
    have digits : spelling.whole ≠ [] := fun none => spelling.hasDigit ⟨none, by rw [noFraction]; rfl⟩
    obtain rfl : size = 0 := by
      rw [noPower] at power
      exact (Option.some.inj power).symm
    rw [unsigned?_whole spelling noFraction noPower]
    have value : (ofDigits 10 spelling.whole : ℚ) * 10 ^ ((0 : ℤ) - ([] : List Char).length) =
        ofDigits 10 spelling.whole := by simp
    simp only [noFraction, noPower, List.tail_nil, List.append_nil, true_and, value]
    rw [← whole?_eq_iff digits spelling.isWhole]
    exact (Option.map_injective (mul_right_injective₀ nonzero)).eq_iff' rfl
  · rw [unsigned?_floating spelling power whole]
    refine iff_of_true ?_ fun skewed => whole ⟨skewed.1, skewed.2.1⟩
    rw [Option.map_some]
    congr 2
    rw [zpow_sub₀ (by norm_num), zpow_natCast]
    ring

end Radix

open Radix (literal? ofDigits? Skewed ZeroLed)
open Decimal (IsSign)

/-- The text of a number that a program may hold stands in the sketch as it is. There it
    denotes the number that it denotes in the program, exactly if it is not skewed: a whole
    number of more than one digit that begins with a zero is read to the base eight. -/
theorem number_kept_iff {raw : String} {literal : Numeral} (accepted : Numeral.ofString? raw = some literal)
    (configuration : Configuration) (label : Label) :
    ∃ term number, Sketch.exprTerm configuration (.number label literal) = .ok term ∧
      term.render = Text.trim raw ∧
      Decimal.read? (Text.trim raw).toList = some number ∧
      (literal? term.render.toList = some number.value ↔ ¬Skewed (Text.trim raw).toList) ∧
      ∀ sign digits, IsSign sign → ZeroLed digits → (Text.trim raw).toList = sign ++ digits →
        literal? term.render.toList =
          (ofDigits? 8 digits).map fun size : Nat => (if sign = ['-'] then -1 else 1) * (size : ℚ) := by
  have text := Numeral.ofString?_eq_some_iff.mp accepted
  obtain ⟨number, reads, _⟩ := Option.bind_eq_some_iff.mp literal.reads
  rw [text] at reads
  have written : (Sketch.Term.number literal).render = Text.trim raw := text
  refine ⟨.number literal, number, rfl, written, reads, ?_, ?_⟩
  · rw [written]
    exact Radix.literal?_eq_value_iff reads
  · intro sign digits isSign led split
    rw [written, split]
    exact Radix.literal?_of_zeroLed isSign led

def Numeral.padded : Numeral :=
  ⟨"-08.5e1", ⟨true, 85 * Double.one⟩, by decide +kernel⟩

def Numeral.paddedSeventeen : Numeral :=
  ⟨"-017", ⟨true, 17 * Double.one⟩, by decide +kernel⟩

/-- Zeros in front do not matter to a number with a point or a power, and give the base eight to
    the others. -/
theorem padded_kept_paddedSeventeen_not :
    (Numeral.ofString? " -08.5e1\t" = some .padded ∧
      ∃ term number, Sketch.exprTerm .empty (.number ⟨[0], {}⟩ .padded) = .ok term ∧
        term.render = "-08.5e1" ∧ Decimal.read? "-08.5e1".toList = some number ∧
        literal? term.render.toList = some number.value) ∧
    Numeral.ofString? "-017 " = some .paddedSeventeen ∧
      ∃ term number, Sketch.exprTerm .empty (.number ⟨[0], {}⟩ .paddedSeventeen) = .ok term ∧
        term.render = "-017" ∧ Decimal.read? "-017".toList = some number ∧
        literal? term.render.toList ≠ some number.value ∧ literal? term.render.toList = some (-15) := by
  have trimmed : Text.trim " -08.5e1\t" = "-08.5e1" := by decide +kernel
  have trimmedSeventeen : Text.trim "-017 " = "-017" := by decide +kernel
  have accepted : Numeral.ofString? " -08.5e1\t" = some .padded := Numeral.ofString?_eq_some_iff.mpr trimmed.symm
  have acceptedSeventeen : Numeral.ofString? "-017 " = some .paddedSeventeen :=
    Numeral.ofString?_eq_some_iff.mpr trimmedSeventeen.symm
  have straight : ¬Skewed "-08.5e1".toList := by
    rintro ⟨sign, digits, isSign, same, all, _⟩
    have point : '.' ∈ sign ++ digits := by
      rw [← same]
      decide
    rcases List.mem_append.mp point with inSign | inDigits
    · rcases isSign with rfl | rfl | rfl <;> exact absurd inSign (by decide)
    · exact absurd (List.all_eq_true.mp all '.' inDigits) (by decide)
  have skewed : Skewed "-017".toList :=
    ⟨['-'], ['0', '1', '7'], .inr (.inr rfl), rfl, rfl, ['1'], '7', rfl,
      fun harmless => absurd (harmless.1 '1' List.mem_cons_self) (by decide)⟩
  obtain ⟨term, number, generated, written, reads, kept, _⟩ := number_kept_iff accepted .empty ⟨[0], {}⟩
  obtain ⟨other, seventeen, generatedSeventeen, writtenSeventeen, readsSeventeen, keptSeventeen, octal⟩ :=
    number_kept_iff acceptedSeventeen .empty ⟨[0], {}⟩
  rw [trimmed] at written reads kept
  rw [trimmedSeventeen] at writtenSeventeen readsSeventeen keptSeventeen octal
  refine ⟨⟨accepted, term, number, generated, written, reads, kept.mpr straight⟩, acceptedSeventeen, other,
    seventeen, generatedSeventeen, writtenSeventeen, readsSeventeen, fun same => keptSeventeen.mp same skewed, ?_⟩
  rw [octal ['-'] ['0', '1', '7'] (.inr (.inr rfl)) ⟨rfl, by decide, rfl⟩ rfl]
  decide +kernel

/-- Ten with a zero in front. -/
def Numeral.paddedTen : Numeral :=
  ⟨"010", ⟨false, 10 * Double.one⟩, by decide +kernel⟩

/-- The program means ten, and the sketch reads eight. -/
theorem paddedTen_read_as_eight :
    Numeral.ofString? "010" = some .paddedTen ∧
      Sketch.exprTerm .empty (.number ⟨[0], {}⟩ .paddedTen) = .ok (.number .paddedTen) ∧
      Decimal.read? (Text.trim "010").toList = some ⟨false, 10, 0⟩ ∧ Decimal.value ⟨false, 10, 0⟩ = 10 ∧
      literal? (Sketch.Term.number .paddedTen).render.toList = some 8 := by
  have trimmed : Numeral.paddedTen.text = Text.trim "010" := by decide +kernel
  exact ⟨Numeral.ofString?_eq_some_iff.mpr trimmed, rfl, by decide +kernel, by norm_num [Decimal.value],
    by decide +kernel⟩

end BlockSketch
