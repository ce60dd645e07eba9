import BlockSketch.Program.Occurrence
import BlockSketch.Typing.Check

/-!
The types of expressions by rules (`Typing.HasType`), apart from how they are computed.
The rules leave open which variables may be read at which type. Read against some
declarations, an expression has at most one type, and it is the one that is inferred
(`Typing.infer?_eq_some_iff`).
-/
namespace BlockSketch

/-- The operands of an operator; all other expressions have none. -/
def Expr.operands : Expr → List Expr
  | .binary _ _ left right => [left, right]
  | .unary _ _ operand => [operand]
  | _ => []

namespace Typing

/-! ## The rules -/

/-- The expression has the type, where variables may be read as `reads` says. -/
inductive HasType (reads : Identifier → ValueType → Prop) : Expr → ValueType → Prop
  | number {label : Label} {literal : Numeral} : HasType reads (.number label literal) .number
  | boolean {label : Label} {value : Bool} : HasType reads (.boolean label value) .boolean
  | text {label : Label} {value : String} : HasType reads (.text label value) .string
  | var {label : Label} {name : Identifier} {type : ValueType} (readable : reads name type) :
    HasType reads (.var label name type) type
  | arithmetic {label : Label} {op : BinaryOp} {left right : Expr}
    (computes : op.operatorClass = .arithmetic)
    (first : HasType reads left .number) (second : HasType reads right .number) :
    HasType reads (.binary label op left right) .number
  | ordering {label : Label} {op : BinaryOp} {left right : Expr}
    (compares : op.operatorClass = .ordering)
    (first : HasType reads left .number) (second : HasType reads right .number) :
    HasType reads (.binary label op left right) .boolean
  | logical {label : Label} {op : BinaryOp} {left right : Expr}
    (connects : op.operatorClass = .logical)
    (first : HasType reads left .boolean) (second : HasType reads right .boolean) :
    HasType reads (.binary label op left right) .boolean
  | equality {label : Label} {op : BinaryOp} {left right : Expr} {type : ValueType}
    (equates : op.operatorClass = .equality)
    (first : HasType reads left type) (second : HasType reads right type) :
    HasType reads (.binary label op left right) .boolean
  | neg {label : Label} {operand : Expr} (only : HasType reads operand .number) :
    HasType reads (.unary label .neg operand) .number
  | not {label : Label} {operand : Expr} (only : HasType reads operand .boolean) :
    HasType reads (.unary label .not operand) .boolean
  | key {label : Label} {port : Identifier} : HasType reads (.sensor label .key port) .boolean
  | measure {label : Label} {device : Sensor} {port : Identifier} (measures : device ≠ .key) :
    HasType reads (.sensor label device port) .number
  | timer {label : Label} {timer : TimerId} : HasType reads (.timer label timer) .number

/-- The rules give the expression a type. -/
def Typable (reads : Identifier → ValueType → Prop) (expr : Expr) : Prop :=
  ∃ type, HasType reads expr type

/-- The type of a variable by these declarations, of which the first counts. -/
def firstType? (declared : List Declaration) (name : Identifier) : Option ValueType :=
  (declared.find? fun declaration => declaration.name = name).map Declaration.type

/-- The variable has this type by the declarations, or is not among them. -/
def Agrees (declared : List Declaration) (name : Identifier) (type : ValueType) : Prop :=
  ∀ known, firstType? declared name = some known → known = type

/-! ## Reading the rules -/

/-- All variables inside the expression may be read at their tags. -/
def Reads (reads : Identifier → ValueType → Prop) (expr : Expr) : Prop :=
  ∀ label name type, .var label name type ∈ expr.parts → reads name type

section
variable {reads others : Identifier → ValueType → Prop} {label : Label} {expr : Expr}
  {type : ValueType}

theorem reads_binary {op : BinaryOp} {left right : Expr} :
    Reads reads (.binary label op left right) ↔ Reads reads left ∧ Reads reads right := by
  simp only [Reads, Expr.parts, List.mem_cons, List.mem_append, reduceCtorEq, false_or]
  constructor
  · intro inside
    exact ⟨fun label name type member => inside label name type (.inl member),
      fun label name type member => inside label name type (.inr member)⟩
  · rintro ⟨inLeft, inRight⟩ label name type (member | member)
    · exact inLeft label name type member
    · exact inRight label name type member

theorem reads_unary {op : UnaryOp} {operand : Expr} :
    Reads reads (.unary label op operand) ↔ Reads reads operand := by
  simp [Reads, Expr.parts]

/-- A type depends on the variables inside only. -/
theorem HasType.congr (typed : HasType reads expr type) (readable : Reads others expr) :
    HasType others expr type := by
  induction typed with
  | number => exact .number
  | boolean => exact .boolean
  | text => exact .text
  | @var label name tag _ => exact .var (readable label name tag (by simp [Expr.parts]))
  | arithmetic computes _ _ first second =>
    obtain ⟨inLeft, inRight⟩ := reads_binary.mp readable
    exact .arithmetic computes (first inLeft) (second inRight)
  | ordering compares _ _ first second =>
    obtain ⟨inLeft, inRight⟩ := reads_binary.mp readable
    exact .ordering compares (first inLeft) (second inRight)
  | logical connects _ _ first second =>
    obtain ⟨inLeft, inRight⟩ := reads_binary.mp readable
    exact .logical connects (first inLeft) (second inRight)
  | equality equates _ _ first second =>
    obtain ⟨inLeft, inRight⟩ := reads_binary.mp readable
    exact .equality equates (first inLeft) (second inRight)
  | neg _ only => exact .neg (only (reads_unary.mp readable))
  | not _ only => exact .not (only (reads_unary.mp readable))
  | key => exact .key
  | measure measures => exact .measure measures
  | timer => exact .timer

end

/-! ## Declarations -/

theorem type?_map_entry (declared : List Declaration) (name : Identifier) :
    Env.type? (declared.map entry) name = firstType? declared name := by
  simp only [Env.type?, firstType?, List.find?_map, Option.map_map]
  rfl

section
variable {declared : List Declaration} {name : Identifier}

theorem exists_firstType? (known : name ∈ declared.map Declaration.name) :
    ∃ type, firstType? declared name = some type := by
  obtain ⟨declaration, member, named⟩ := List.mem_map.mp known
  have found : (declared.find? fun other => other.name = name).isSome :=
    List.find?_isSome.mpr ⟨declaration, member, by simpa using named⟩
  obtain ⟨first, first_eq⟩ := Option.isSome_iff_exists.mp found
  exact ⟨first.type, by rw [firstType?, first_eq]; rfl⟩

theorem mem_of_firstType? {type : ValueType} (found : firstType? declared name = some type) :
    ∃ declaration ∈ declared, declaration.name = name ∧ declaration.type = type := by
  obtain ⟨declaration, first, typed⟩ := Option.map_eq_some_iff.mp found
  exact ⟨declaration, List.mem_of_find?_eq_some first, by simpa using List.find?_some first, typed⟩

end

/-! ## The rules and the inferred type -/

section
variable {declared : List Declaration} {expr left right operand : Expr} {type : ValueType}
  {label : Label}

theorem binaryType?_sound {op : BinaryOp} {leftType rightType : ValueType}
    {reads : Identifier → ValueType → Prop} (typed : binaryType? op leftType rightType = some type)
    (first : HasType reads left leftType) (second : HasType reads right rightType) :
    HasType reads (.binary label op left right) type := by
  unfold binaryType? at typed
  split at typed
  · next computes => cases typed; exact .arithmetic computes first second
  · next compares => cases typed; exact .ordering compares first second
  · next connects => cases typed; exact .logical connects first second
  · next equates =>
    split at typed
    · next same => cases typed; exact .equality equates first (same ▸ second)
    · cases typed
  · cases typed

/-- The inferred type follows from the rules. -/
theorem infer?_sound (inferred : infer? (declared.map entry) expr = some type) :
    HasType (Agrees declared) expr type := by
  induction expr generalizing type with
  | number label literal => cases inferred; exact .number
  | boolean label value => cases inferred; exact .boolean
  | text label value => cases inferred; exact .text
  | var label name tag =>
    simp only [infer?, type?_map_entry] at inferred
    split at inferred
    · next absent =>
      cases inferred
      exact .var fun known found => nomatch absent.symm.trans found
    · next first found =>
      split at inferred
      · next same =>
        cases inferred
        exact .var fun known again => (Option.some.inj (again.symm.trans found)).trans same
      · cases inferred
  | binary label op left right leftSound rightSound =>
    simp only [infer?] at inferred
    split at inferred
    · next leftFound rightFound => exact binaryType?_sound inferred (leftSound leftFound) (rightSound rightFound)
    · cases inferred
  | unary label op operand sound =>
    obtain ⟨found, taken⟩ := Option.filter_eq_some_iff.mp inferred
    obtain rfl : type = unaryType op := by simpa using taken
    cases op with
    | neg => exact .neg (sound found)
    | not => exact .not (sound found)
  | sensor label device port =>
    cases inferred
    cases device with
    | key => exact .key
    | ultrasonic => exact .measure (by decide)
    | light => exact .measure (by decide)
    | temperature => exact .measure (by decide)
  | timer label timer => cases inferred; exact .timer

/-- What follows from the rules is inferred. -/
theorem infer?_complete (typed : HasType (Agrees declared) expr type) :
    infer? (declared.map entry) expr = some type := by
  induction typed with
  | number => rfl
  | boolean => rfl
  | text => rfl
  | var agrees =>
    simp only [infer?, type?_map_entry]
    split
    · rfl
    · next first found => rw [if_pos (agrees first found)]
  | arithmetic computes _ _ first second => simp [infer?, first, second, binaryType?, computes]
  | ordering compares _ _ first second => simp [infer?, first, second, binaryType?, compares]
  | logical connects _ _ first second => simp [infer?, first, second, binaryType?, connects]
  | equality equates _ _ first second => simp [infer?, first, second, binaryType?, equates]
  | neg _ only => simp [infer?, only, unaryType]
  | not _ only => simp [infer?, only, unaryType]
  | key => rfl
  | @measure _ device _ measures =>
    cases device with
    | key => exact absurd rfl measures
    | _ => rfl
  | timer => rfl

/-- The inferred type is the type by the rules. -/
theorem infer?_eq_some_iff :
    infer? (declared.map entry) expr = some type ↔ HasType (Agrees declared) expr type :=
  ⟨infer?_sound, infer?_complete⟩

theorem infer?_eq_none_iff :
    infer? (declared.map entry) expr = none ↔ ¬Typable (Agrees declared) expr := by
  simp only [Option.eq_none_iff_forall_ne_some, ne_eq, infer?_eq_some_iff, Typable, not_exists]

theorem HasType.unique {other : ValueType} (typed : HasType (Agrees declared) expr type)
    (again : HasType (Agrees declared) expr other) : type = other :=
  Option.some.inj ((infer?_complete typed).symm.trans (infer?_complete again))

end
end Typing
end BlockSketch
