/-!
Words that may stand as names in a sketch. A variable, a component or a port
that the program names is an `Identifier`; a pin that the configuration names
is a `Pin`. Both carry the proof that their text is a plain word, so nothing
that is made from them can hold a quote, a blank or a bracket.
-/
namespace BlockSketch

/-- A letter, a digit or an underscore, in ASCII. -/
def isWordChar (c : Char) : Bool :=
  c.isAlphanum || c == '_'

/-- A word that does not start with a digit: `[A-Za-z_][A-Za-z0-9_]*`. -/
def isIdentifier (text : String) : Bool :=
  match text.toList with
  | [] => false
  | c :: rest => (c.isAlpha || c == '_') && rest.all isWordChar

/-- A pin is a nonempty word, such as `13`, `A0` or `LED_BUILTIN`. -/
def isPin (text : String) : Bool :=
  !text.toList.isEmpty && text.toList.all isWordChar

/-- The name of a variable or of a component. -/
structure Identifier where
  text : String
  valid : isIdentifier text = true
deriving DecidableEq

/-- The name of a pin of the board. -/
structure Pin where
  text : String
  valid : isPin text = true
deriving DecidableEq

/-- The identifier with this text, if the text is one. -/
def Identifier.ofString? (text : String) : Option Identifier :=
  if valid : isIdentifier text = true then some ⟨text, valid⟩ else none

/-- The pin with this text, if the text is one. -/
def Pin.ofString? (text : String) : Option Pin :=
  if valid : isPin text = true then some ⟨text, valid⟩ else none

theorem Identifier.ofString?_eq_some_iff {text : String} {name : Identifier} :
    Identifier.ofString? text = some name ↔ name.text = text := by
  unfold Identifier.ofString?
  constructor
  · intro found
    split at found
    · cases found; rfl
    · cases found
  · rintro rfl
    simp [name.valid]

theorem Pin.ofString?_eq_some_iff {text : String} {pin : Pin} :
    Pin.ofString? text = some pin ↔ pin.text = text := by
  unfold Pin.ofString?
  constructor
  · intro found
    split at found
    · cases found; rfl
    · cases found
  · rintro rfl
    simp [pin.valid]

end BlockSketch
