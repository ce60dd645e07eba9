/-!
Closed sets of words. A block names its operator, colour or mode by a word of
one of these sets, and messages show the value by the same word.
-/
namespace BlockSketch

/-- A finite type whose values have words. `title` names the set in messages,
    and `values` lists its members in their usual order. -/
class Vocabulary (α : Type) where
  title : String
  values : List α
  word : α → String

namespace Vocabulary
variable {α : Type} [Vocabulary α]

/-- The value with this word, if there is one. -/
def ofWord? (text : String) : Option α :=
  (values : List α).find? fun value => word value == text

theorem word_of_ofWord? {text : String} {value : α} (found : ofWord? text = some value) :
    word value = text := by
  have matching := List.find?_some found
  simpa using matching

end Vocabulary
end BlockSketch
