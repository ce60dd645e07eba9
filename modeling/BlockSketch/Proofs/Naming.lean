import BlockSketch.Text.Identifier
import Mathlib.Logic.Basic

/-!
Names and pins by rules. A name is a word that does not start with a digit, and a pin is a word
that is not empty; words are made of letters, digits and underscores. Exactly these texts are
accepted (`Draft.isName_iff`, `Draft.isPin_iff`).
-/
namespace BlockSketch

/-- One of `[A-Za-z]`. -/
def IsLetter (c : Char) : Prop :=
  'A' ≤ c ∧ c ≤ 'Z' ∨ 'a' ≤ c ∧ c ≤ 'z'

/-- One of `[A-Za-z0-9_]`. -/
def IsWordChar (c : Char) : Prop :=
  IsLetter c ∨ '0' ≤ c ∧ c ≤ '9' ∨ c = '_'

theorem isAlpha_iff {c : Char} : c.isAlpha = true ↔ IsLetter c := by
  have upper : c.isUpper = true ↔ 'A' ≤ c ∧ c ≤ 'Z' := decide_eq_true_iff
  have lower : c.isLower = true ↔ 'a' ≤ c ∧ c ≤ 'z' :=
    Bool.and_eq_true_iff.trans (and_congr decide_eq_true_iff decide_eq_true_iff)
  exact Bool.or_eq_true_iff.trans (or_congr upper lower)

theorem isWordChar_iff {c : Char} : isWordChar c = true ↔ IsWordChar c := by
  have digit : c.isDigit = true ↔ '0' ≤ c ∧ c ≤ '9' :=
    Bool.and_eq_true_iff.trans (and_congr decide_eq_true_iff decide_eq_true_iff)
  have alphanumeric : c.isAlphanum = true ↔ IsLetter c ∨ '0' ≤ c ∧ c ≤ '9' :=
    Bool.or_eq_true_iff.trans (or_congr isAlpha_iff digit)
  rw [isWordChar, Bool.or_eq_true_iff, alphanumeric, beq_iff_eq, or_assoc, IsWordChar]

namespace Draft

/-- A word that does not start with a digit. -/
def IsName (text : String) : Prop :=
  ∃ first rest, text.toList = first :: rest ∧ (IsLetter first ∨ first = '_') ∧ ∀ c ∈ rest, IsWordChar c

/-- A word that is not empty. -/
def IsPin (text : String) : Prop :=
  text ≠ "" ∧ ∀ c ∈ text.toList, IsWordChar c

theorem isName_iff {text : String} : isIdentifier text = true ↔ IsName text := by
  unfold isIdentifier IsName
  cases text.toList with
  | nil => simp
  | cons first rest =>
    have rules : ((first.isAlpha || first == '_') && rest.all isWordChar) = true ↔
        (IsLetter first ∨ first = '_') ∧ ∀ c ∈ rest, IsWordChar c := by
      simp [isAlpha_iff, isWordChar_iff]
    constructor
    · intro valid
      exact ⟨first, rest, rfl, rules.mp valid⟩
    · rintro ⟨_, _, ⟨⟩, kept⟩
      exact rules.mpr kept

theorem isPin_iff {text : String} : isPin text = true ↔ IsPin text := by
  simp [isPin, IsPin, isWordChar_iff]

theorem exists_name {text : String} (named : IsName text) : ∃ name, Identifier.ofString? text = some name :=
  ⟨⟨text, isName_iff.mpr named⟩, Identifier.ofString?_eq_some_iff.mpr rfl⟩

theorem ofString?_of_not_isName {text : String} (invalid : ¬IsName text) : Identifier.ofString? text = none := by
  rw [Identifier.ofString?, dif_neg (isName_iff.not.mpr invalid)]

theorem exists_pin {text : String} (valid : IsPin text) : ∃ pin, Pin.ofString? text = some pin :=
  ⟨⟨text, isPin_iff.mpr valid⟩, Pin.ofString?_eq_some_iff.mpr rfl⟩

theorem ofString?_of_not_isPin {text : String} (invalid : ¬IsPin text) : Pin.ofString? text = none := by
  rw [Pin.ofString?, dif_neg (isPin_iff.not.mpr invalid)]

end Draft
end BlockSketch
