import BlockSketch.Decimal.Double
import BlockSketch.Text.Blank

/-!
Number literals of a program: trimmed texts that denote a finite double.
-/
namespace BlockSketch

/-- The double that a text denotes, if it denotes one. -/
def Double.read? (text : String) : Option Double :=
  (Decimal.read? text.toList).bind Double.ofDecimal?

/-- A number literal: its text, and the double that the text denotes. -/
structure Numeral where
  text : String
  value : Double
  reads : Double.read? text = some value

/-- The literal with the trimmed text, if that denotes a finite double. -/
def Numeral.ofString? (raw : String) : Option Numeral :=
  match reads : Double.read? (Text.trim raw) with
  | some value => some ⟨Text.trim raw, value, reads⟩
  | none => none

end BlockSketch
